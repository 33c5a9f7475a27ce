/-!
Files as a command sees them: a path leads to a text, or to the reason why there is none.
-/

namespace Census.Cli

inductive FileError where
  | notFound
  | isDirectory
  | notDirectory
  | nameTooLong
  /-- The content is no text. -/
  | notText
  | other (reason : String)
  deriving DecidableEq, Repr

def FileError.message : FileError → String
  | notFound => "No such file or directory (os error 2)"
  | isDirectory => "Is a directory (os error 21)"
  | notDirectory => "Not a directory (os error 20)"
  | nameTooLong => "File name too long (os error 36)"
  | notText => "stream did not contain valid UTF-8"
  | other reason => reason

abbrev Files := String → Except FileError String

/-- Whether a path leads to a file, be it one that cannot be read as text. -/
def Files.hasFile (files : Files) (path : String) : Bool :=
  match files path with
  | .error .notFound => false
  | .error .isDirectory => false
  | .error .notDirectory => false
  | .error .nameTooLong => false
  | _ => true

/-- The text of these bytes. -/
def decode (bytes : ByteArray) : Except FileError String :=
  match String.fromUTF8? bytes with
  | some s => .ok s
  | none => .error .notText

/-- The steps of a path. Two slashes in a row have an empty step between them. -/
def steps (path : String) : List (List Char) :=
  path.toList.splitOn '/'

/-- Whether a step leads nowhere else. -/
def staysInPlace (step : List Char) : Bool := step = [] ∨ step = ['.']

/-- What follows the last point of the last step that leads elsewhere, unless nothing stands
before that point. -/
def suffix? (path : String) : Option String := do
  let name ← ((steps path).filter fun step => !staysInPlace step).getLast?
  let behind := (name.reverse.takeWhile (· != '.')).reverse
  let before := (name.reverse.dropWhile (· != '.')).tail
  if before = [] then none else some (String.ofList behind)

end Census.Cli
