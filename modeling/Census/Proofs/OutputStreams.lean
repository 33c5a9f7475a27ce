import Mathlib
import Census.Proofs.AddedSettings
import Census.Proofs.PrintedPages

/-!
Where the outcome of a command line goes. A page goes to one stream and the report of a failure to
the other, and the settings only decide in which form.
-/

namespace Census.Cli

/-- What a command line leaves behind. -/
def outcome (wording : Wording) (files : Files) (args : List String) : Outcome :=
  (CommandLine.ofArguments args).run wording files

/-- The invocations ask for the same, though perhaps to be shown otherwise. -/
structure Invocation.AsksSame (i i' : Invocation) : Prop where
  config : i'.config = i.config
  command : i'.command = i.command

theorem Invocation.With.asksSame {i i' : Invocation} {piece : List String} {e : String × String}
    (hpiece : Gives piece e) (h : i.With e i') : i.AsksSame i' := by
  cases hpiece with
  | quiet =>
    rw [h.quiet rfl]
    exact ⟨rfl, rfl⟩
  | output value | outputApart value =>
    obtain ⟨output, rfl⟩ := h.output rfl
    exact ⟨rfl, rfl⟩

/-- The outcome is a failure with this message, shown as the invocation says. -/
structure Outcome.Fails (o : Outcome) (i : Invocation) (message : String) : Prop where
  exit : o.exit = 1
  stdout : o.stdout = ""
  quiet : i.quiet = true → o.stderr = ""
  text : i.quiet = false → i.output = .text → o.stderr = message ++ "\n"
  json : i.quiet = false → i.output = .json →
    o.stderr = (Json.record [("error", .text message)]).compact ++ "\n" ∧
      Json.read o.stderr = ⟨.record [(some "error", .text message)], true⟩

/-- The outcome is a success that shows a page as the invocation says. -/
structure Outcome.Succeeds (o : Outcome) (i : Invocation) (page : Page) : Prop where
  exit : o.exit = 0
  stdout : o.stdout = page.printed i.output
  stderr : o.stderr = ""

section Results

variable {wording : Wording} {files : Files} {i i' : Invocation}

theorem Invocation.result_of_asksSame (h : i.AsksSame i') :
    i'.result wording files = i.result wording files := by
  rw [result, result, h.config, h.command]

theorem Invocation.fails_of_result {message : String}
    (h : i.result wording files = .error message) : (i.run wording files).Fails i message := by
  rw [run, h]
  refine ⟨rfl, rfl, fun hquiet => ?_, fun hquiet houtput => ?_, fun hquiet houtput => ?_⟩
  · rw [Outcome.ofResult, hquiet]
    rfl
  · rw [Outcome.ofResult, hquiet, houtput]
    rfl
  · rw [Outcome.ofResult, hquiet, houtput]
    exact ⟨rfl, Json.read_compact_line (Nat.le_trans (Nat.le_refl 1) (by decide))⟩

theorem Invocation.succeeds_of_result {page : Page} (h : i.result wording files = .ok page) :
    (i.run wording files).Succeeds i page := by
  rw [run, h]
  exact ⟨rfl, rfl, rfl⟩

/-- All invocations that ask for the same fail with one message, or show one page. -/
theorem Invocation.fails_or_succeeds (wording : Wording) (files : Files) (i : Invocation) :
    (∃ message, ∀ i', i.AsksSame i' → (i'.run wording files).Fails i' message) ∨
      ∃ page, i.result wording files = .ok page ∧
        ∀ i', i.AsksSame i' → (i'.run wording files).Succeeds i' page := by
  cases hresult : i.result wording files with
  | error message =>
    exact .inl ⟨message, fun i' h => fails_of_result ((result_of_asksSame h).trans hresult)⟩
  | ok page =>
    exact .inr ⟨page, rfl, fun i' h => succeeds_of_result ((result_of_asksSame h).trans hresult)⟩

/-- Settings have no part in whether a run succeeds, and only the format has one in what is then
printed. -/
theorem Invocation.exit_of_asksSame (h : i.AsksSame i') :
    (i'.run wording files).exit = (i.run wording files).exit ∧
      (i'.output = i.output → (i'.run wording files).stdout = (i.run wording files).stdout) := by
  rcases i.fails_or_succeeds wording files with ⟨message, hfails⟩ | ⟨page, -, hsucceeds⟩
  · have hi := hfails i ⟨rfl, rfl⟩
    have hi' := hfails i' h
    exact ⟨hi'.exit.trans hi.exit.symm, fun _ => hi'.stdout.trans hi.stdout.symm⟩
  · have hi := hsucceeds i ⟨rfl, rfl⟩
    have hi' := hsucceeds i' h
    refine ⟨hi'.exit.trans hi.exit.symm, fun houtput => ?_⟩
    rw [hi'.stdout, hi.stdout, houtput]

/-- A query that succeeds shows its text, on its own or with its kind. -/
theorem exists_queryPage {q : QueryCommand} {page : Page} (hq : i.command = .query q)
    (h : i.result wording files = .ok page) : ∃ kind text, page = queryPage kind text := by
  obtain ⟨config, -, hpage⟩ := bind_eq_ok_iff.mp h
  rw [hq] at hpage
  obtain ⟨request, -, hpage⟩ := bind_eq_ok_iff.mp hpage
  obtain ⟨text, -, hpage⟩ := bind_eq_ok_iff.mp hpage
  exact ⟨request.kind, text, (Except.ok.inj hpage).symm⟩

theorem outcome_of_invoke {args : List String} (h : CommandLine.ofArguments args = .invoke i) :
    outcome wording files args = i.run wording files := by
  rw [outcome, h]
  rfl

theorem outcome_of_asked {args : List String} {q : Question}
    (h : CommandLine.ofArguments args = .asked q) :
    outcome wording files args = ⟨0, q.answer, ""⟩ := by
  rw [outcome, h]
  rfl

end Results

/-- What holds of a command line whose outcome goes where it belongs. -/
structure KeepsStreams (wording : Wording) (files : Files) (args : List String) : Prop where
  streams :
    (outcome wording files args).exit = 0 ∧ (outcome wording files args).stderr = "" ∨
      (outcome wording files args).exit = 1 ∧ (outcome wording files args).stdout = ""
  /-- The message of a failure is the same however it is shown. -/
  report : ∀ i, CommandLine.ofArguments args = .invoke i → (outcome wording files args).exit = 1 →
    ∃ message, ∀ args' i', CommandLine.ofArguments args' = .invoke i' → i.AsksSame i' →
      (outcome wording files args').Fails i' message
  /-- Settings do not decide between success and failure. -/
  settings : ∀ i args' i', CommandLine.ofArguments args = .invoke i →
    CommandLine.ofArguments args' = .invoke i' → i.AsksSame i' →
    (outcome wording files args').exit = (outcome wording files args).exit ∧
      (i'.output = i.output →
        (outcome wording files args').stdout = (outcome wording files args).stdout)
  /-- Adding the quiet switch, wherever it can be added, only silences the report. -/
  quiet : ∀ before after, args = before ++ after →
    CommandLine.ofArguments (before ++ (["--quiet"] ++ after)) ≠ .wrong →
    (outcome wording files (before ++ (["--quiet"] ++ after))).exit =
        (outcome wording files args).exit ∧
      (outcome wording files (before ++ (["--quiet"] ++ after))).stdout =
        (outcome wording files args).stdout ∧
      (outcome wording files (before ++ (["--quiet"] ++ after))).stderr = ""
  /-- It can always be added in front. -/
  quiet_front : ∀ i, CommandLine.ofArguments args = .invoke i → i.quiet = false →
    CommandLine.ofArguments ("--quiet" :: args) = .invoke { i with quiet := true }
  /-- Adding an output format. -/
  output_added : ∀ before after piece value, args = before ++ after →
    Gives piece ("output", value) → CommandLine.ofArguments (before ++ (piece ++ after)) ≠ .wrong →
    (outcome wording files (before ++ (piece ++ after))).exit = (outcome wording files args).exit
  /-- Changing the output format. Behind two dashes it would be a path. -/
  output_changed : ∀ before after piece value piece' value', args = before ++ (piece ++ after) →
    "--" ∉ before → Gives piece ("output", value) → Gives piece' ("output", value') →
    CommandLine.ofArguments (before ++ (piece' ++ after)) ≠ .wrong →
    (outcome wording files (before ++ (piece' ++ after))).exit = (outcome wording files args).exit
  /-- The text of a query is the same in either format. -/
  query : ∀ i q, CommandLine.ofArguments args = .invoke i → i.command = .query q →
    (outcome wording files args).exit = 0 →
    ∃ kind text, ∀ args' i', CommandLine.ofArguments args' = .invoke i' → i.AsksSame i' →
      (i'.output = .text → (outcome wording files args').stdout = text ++ "\n") ∧
      (i'.output = .json → Json.read (outcome wording files args').stdout =
        ⟨.record [(some "kind", .text kind), (some "query", .text text)], true⟩)

section Added

variable (wording : Wording) (files : Files) {piece : List String} {e : String × String}
  {before after : List String}

/-- A setting that is added does not decide between success and failure. -/
theorem Gives.exit (hpiece : Gives piece e)
    (hbase : CommandLine.ofArguments (before ++ after) ≠ .wrong ∨ "--" ∉ before)
    (hnew : CommandLine.ofArguments (before ++ (piece ++ after)) ≠ .wrong) :
    (outcome wording files (before ++ (piece ++ after))).exit =
      (outcome wording files (before ++ after)).exit := by
  rcases hpiece.ofArguments hbase hnew with ⟨q, hasked, hasked'⟩ | ⟨i, i', hi, hi', hwith⟩
  · rw [outcome_of_asked hasked, outcome_of_asked hasked']
  · rw [outcome_of_invoke hi, outcome_of_invoke hi']
    exact (Invocation.exit_of_asksSame (hwith.asksSame hpiece)).1

theorem quiet_added (hbase : CommandLine.ofArguments (before ++ after) ≠ .wrong)
    (hnew : CommandLine.ofArguments (before ++ (["--quiet"] ++ after)) ≠ .wrong) :
    (outcome wording files (before ++ (["--quiet"] ++ after))).stdout =
        (outcome wording files (before ++ after)).stdout ∧
      (outcome wording files (before ++ (["--quiet"] ++ after))).stderr = "" := by
  rcases Gives.quiet.ofArguments (.inl hbase) hnew with
    ⟨q, hasked, hasked'⟩ | ⟨i, i', hi, hi', hwith⟩
  · rw [outcome_of_asked hasked, outcome_of_asked hasked']
    exact ⟨rfl, rfl⟩
  · rw [outcome_of_invoke hi, outcome_of_invoke hi']
    obtain rfl := hwith.quiet rfl
    refine ⟨(Invocation.exit_of_asksSame (hwith.asksSame .quiet)).2 rfl, ?_⟩
    rcases i.fails_or_succeeds wording files with ⟨message, hfails⟩ | ⟨page, -, hsucceeds⟩
    · exact (hfails { i with quiet := true } ⟨rfl, rfl⟩).quiet rfl
    · exact (hsucceeds { i with quiet := true } ⟨rfl, rfl⟩).stderr

end Added

/-- Every command line that is accepted keeps its streams apart: it succeeds with its page on the
one, or fails with one message on the other. The quiet switch and the output format decide only
whether and how that is shown. -/
theorem accepted_lines_keep_streams (wording : Wording) (files : Files) {args : List String}
    (hargs : CommandLine.ofArguments args ≠ .wrong) : KeepsStreams wording files args where
  streams := by
    cases hline : CommandLine.ofArguments args with
    | wrong => exact absurd hline hargs
    | asked q =>
      rw [outcome_of_asked hline]
      exact .inl ⟨rfl, rfl⟩
    | invoke i =>
      rw [outcome_of_invoke hline]
      rcases i.fails_or_succeeds wording files with ⟨message, hfails⟩ | ⟨page, -, hsucceeds⟩
      · have h := hfails i ⟨rfl, rfl⟩
        exact .inr ⟨h.exit, h.stdout⟩
      · have h := hsucceeds i ⟨rfl, rfl⟩
        exact .inl ⟨h.exit, h.stderr⟩
  report := by
    intro i hi hexit
    rw [outcome_of_invoke hi] at hexit
    rcases i.fails_or_succeeds wording files with ⟨message, hfails⟩ | ⟨page, -, hsucceeds⟩
    · refine ⟨message, fun args' i' hi' hsame => ?_⟩
      rw [outcome_of_invoke hi']
      exact hfails i' hsame
    · rw [(hsucceeds i ⟨rfl, rfl⟩).exit] at hexit
      exact absurd hexit Nat.zero_ne_one
  settings := by
    intro i args' i' hi hi' hsame
    rw [outcome_of_invoke hi, outcome_of_invoke hi']
    exact Invocation.exit_of_asksSame hsame
  quiet := by
    rintro before after rfl hnew
    exact ⟨Gives.quiet.exit wording files (.inl hargs) hnew,
      quiet_added wording files hargs hnew⟩
  quiet_front := fun i => ofArguments_quiet_cons
  output_added := by
    rintro before after piece value rfl hpiece hnew
    exact hpiece.exit wording files (.inl hargs) hnew
  output_changed := by
    rintro before after piece value piece' value' rfl hbefore hpiece hpiece' hnew
    rw [hpiece'.exit wording files (.inr hbefore) hnew,
      hpiece.exit wording files (.inr hbefore) hargs]
  query := by
    intro i q hi hq hexit
    rw [outcome_of_invoke hi] at hexit
    rcases i.fails_or_succeeds wording files with ⟨message, hfails⟩ | ⟨page, hpage, hsucceeds⟩
    · rw [(hfails i ⟨rfl, rfl⟩).exit] at hexit
      exact absurd hexit Nat.one_ne_zero
    · obtain ⟨kind, text, rfl⟩ := exists_queryPage hq hpage
      refine ⟨kind.name, text, fun args' i' hi' hsame => ?_⟩
      have hstdout := (hsucceeds i' hsame).stdout
      rw [outcome_of_invoke hi', hstdout]
      refine ⟨fun houtput => ?_, fun houtput => ?_⟩
      · rw [houtput]
        rfl
      · rw [houtput]
        exact Json.read_pretty_line (readable_queryPage kind text)

/-- No statistics can be asked for yet, and the quiet switch keeps that to itself. -/
theorem stats_query_keeps_streams :
    CommandLine.ofArguments ["query", "stats"] ≠ .wrong ∧
      CommandLine.ofArguments ["query", "--quiet", "stats"] ≠ .wrong ∧
      (outcome (fun _ => "") (fun _ => .error .notFound) ["query", "--quiet", "stats"]).exit =
        (outcome (fun _ => "") (fun _ => .error .notFound) ["query", "stats"]).exit ∧
      (outcome (fun _ => "") (fun _ => .error .notFound) ["query", "--quiet", "stats"]).stderr =
        "" := by
  have hargs : CommandLine.ofArguments ["query", "stats"] ≠ .wrong := by decide
  have hnew : CommandLine.ofArguments ["query", "--quiet", "stats"] ≠ .wrong := by decide
  obtain ⟨hexit, -, hstderr⟩ := (accepted_lines_keep_streams (fun _ => "")
    (fun _ => .error .notFound) hargs).quiet ["query"] ["stats"] rfl hnew
  exact ⟨hargs, hnew, hexit, hstderr⟩

end Census.Cli
