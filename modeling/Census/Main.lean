import Census.Cli.Run

/-!
The command line tool: reads the files that an invocation names, runs it, prints the outcome.
-/

namespace Census.Cli

/-- The words for a text that cannot be read. -/
def plainWording (u : Unreadable) : String :=
  match u.error with
  | .malformed => "the text is not well formed"
  | .unfit fault => fault.message

def fileErrorOf : IO.Error → FileError
  | .noFileOrDirectory .. => .notFound
  | .inappropriateType _ code _ =>
    if code = 20 then .notDirectory else .isDirectory
  | .invalidArgument _ 36 _ => .nameTooLong
  | e => .other (toString e)

def fetch (path : String) : IO (Except FileError String) := do
  try
    return decode (← IO.FS.readBinFile path)
  catch e =>
    return .error (fileErrorOf e)

def fetchAll (paths : List String) : IO Files := do
  let contents ← paths.mapM fun path => do return (path, ← fetch path)
  return fun path => (contents.lookup path).getD (.error .notFound)

end Census.Cli

open Census.Cli in
def main (args : List String) : IO UInt32 := do
  let line := CommandLine.ofArguments args
  let files ← match line with
    | .invoke i => fetchAll i.paths
    | _ => fetchAll []
  let outcome := line.run plainWording files
  (← IO.getStdout).putStr outcome.stdout
  (← IO.getStderr).putStr outcome.stderr
  return outcome.exit.toUInt32
