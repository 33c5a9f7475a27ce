import Mathlib
import Census.Cli.Run
import Census.Proofs.CommandOptions
import Census.Proofs.RequestRoundTrip

/-!
A query asked for by options and the same query asked for by a request file. The file that holds
the request leads to the same outcome, whatever the outcome is and however it is to be shown.
-/

namespace Census.Cli

open Query (Request)

/-- It does not matter where a query command has its request from. -/
theorem Invocation.run_congr {wording : Wording} {files : Files} {i : Invocation}
    {q q' : QueryCommand} (hq : i.command = .query q)
    (hrequest : q.request wording files = q'.request wording files) :
    Invocation.run wording files { i with command := .query q' } = i.run wording files := by
  simp only [run, result, hq, Command.run, runQuery, hrequest]

def Output.name : Output → String
  | text => "text"
  | json => "json"

end Census.Cli
