import Census.Cli.Files
import Census.Cli.Invocation
import Census.Config
import Census.Dictionary.Catalog
import Census.Format
import Census.Query.Reader
import Census.Query.Written

/-!
Running an invocation against files. A command comes to a page, which can be printed as text or
as JSON, or to the message of its failure; nothing is printed before that is settled.
-/

namespace Census.Cli

/-- What a command prints, in either output format. -/
structure Page where
  text : String
  json : Json

/-- What an invocation leaves behind. -/
structure Outcome where
  exit : Nat
  stdout : String
  stderr : String
  deriving DecidableEq, Repr

/-- A failure as it is reported. -/
def report (output : Output) (message : String) : String :=
  match output with
  | .text => message ++ "\n"
  | .json => (Json.record [("error", .text message)]).compact ++ "\n"

def Page.printed (p : Page) : Output → String
  | .text => p.text
  | .json => p.json.pretty ++ "\n"

/-- A quiet invocation does not report its failure. -/
def Outcome.ofResult (output : Output) (quiet : Bool) : Except String Page → Outcome
  | .ok page => ⟨0, page.printed output, ""⟩
  | .error message => ⟨1, "", if quiet then "" else report output message⟩

/-- Lines, each with its end. -/
def printedLines (lines : List String) : String :=
  String.join (lines.map fun line => line ++ "\n")

/-- A text that cannot be read, and why not. -/
structure Unreadable where
  text : String
  error : ReadError

/-- How it is worded that a text cannot be read, the places in it that are at fault included. -/
abbrev Wording := Unreadable → String

/-- The configuration file that is used if there is one and no other is named. -/
def defaultConfig : String := "redatam.toml"

def readConfig (wording : Wording) (files : Files) (path : String) : Except String Config :=
  match files path with
  | .error e => .error ("could not read '" ++ path ++ "': " ++ e.message)
  | .ok content =>
    (Format.toml.read (fun m => (Config.struct m).read m) content).mapError fun e =>
      "could not parse '" ++ path ++ "': " ++ wording ⟨content, e⟩

def loadConfig (wording : Wording) (files : Files) : Option String → Except String Config
  | some path => readConfig wording files path
  | none =>
    -- A directory of that name does not count.
    if files.hasFile defaultConfig then readConfig wording files defaultConfig else .ok {}

/-- The format that the end of a path stands for. -/
def format? (path : String) : Option Format :=
  match suffix? path with
  | some "toml" => some .toml
  | some "json" => some .json
  | _ => none

/-- The request in a file. The file is read before its format is looked at. -/
def readRequestFile (wording : Wording) (files : Files) (path : String) :
    Except String Query.Request :=
  match files path with
  | .error e => .error ("error reading '" ++ path ++ "': " ++ e.message)
  | .ok content =>
    match format? path with
    | none =>
      .error ("unsupported request file type '" ++ path ++ "': expected .toml or .json")
    | some format =>
      (format.read (fun _ => Query.readRequest) content).mapError fun e =>
        "error parsing request in '" ++ path ++ "': " ++ wording ⟨content, e⟩

/-- The request that a query command makes. -/
def QueryCommand.request (wording : Wording) (files : Files) :
    QueryCommand → Except String Query.Request
  | areaList q => .ok (.areaList q)
  | counter q => .ok (.counter q)
  | median q breakdowns =>
    if 2 < breakdowns.length then
      .error ("median accepts at most two --by variables, got " ++ toString breakdowns.length)
    else .ok (.median { q with byVar1 := breakdowns[0]?, byVar2 := breakdowns[1]? })
  | reserved r => .ok (.reserved r)
  | file path => readRequestFile wording files path

/-- A query with its kind. -/
def queryPage (kind : Query.Kind) (text : String) : Page where
  text := text ++ "\n"
  json := .record [("kind", kind.toJson), ("query", .text text)]

def runQuery (wording : Wording) (files : Files) (q : QueryCommand) : Except String Page := do
  let request ← q.request wording files
  let text ← request.text.mapError Query.Error.message
  return queryPage request.kind text

def readFile (files : Files) (path : String) : Except DictionaryError String :=
  (files path).mapError fun e => .source ("error reading '" ++ path ++ "': " ++ e.message)

def readRowsFile (wording : Wording) (files : Files) (path : String) :
    Except DictionaryError (List Row) := do
  let content ← readFile files path
  (Format.json.read readRows content).mapError fun e =>
    .source ("error parsing rows in '" ++ path ++ "': " ++ wording ⟨content, e⟩)

/-- Both feeds from files. The category file holds the whole feed, whatever is asked for;
without one the feed is empty. -/
def fileSource (wording : Wording) (files : Files) (rows : String) (categories : Option String) :
    Source where
  rows := readRowsFile wording files rows
  categoryText _ :=
    match categories with
    | some path => readFile files path
    | none => .ok ""

def dictionaryFailure (e : DictionaryError) : String :=
  "dictionary error: " ++ e.message

/-- The lines that sum up a variable. -/
def variableLine (v : Variable) : String :=
  if v.categories.isEmpty then "  " ++ v.name
  else "  " ++ v.name ++ " (" ++ toString v.categories.length ++ " categories)"

def entityLines (e : Entity) : List String :=
  ["", e.name ++ " (" ++ toString e.vars.length ++ " variables)"]
    ++ e.vars.map variableLine

def dictionaryPage (d : Dictionary) : Page where
  text := printedLines (
    ["geographic: " ++ Query.listed (d.namesOf .geographic),
     "data: " ++ Query.listed (d.namesOf .data)] ++ d.entities.flatMap entityLines)
  json := d.buildJson

def identifiersPage (identifiers : List String) : Page where
  text := printedLines identifiers
  json := .texts identifiers

def formPage (fields : List (String × String)) : Page where
  text := printedLines (fields.map fun f => f.1 ++ "=" ++ f.2)
  json := fieldsJson fields

def runDictionary (wording : Wording) (files : Files) (config : Config) (rows : String)
    (categories : Option String) (append : Bool) : Except String Page :=
  let layout :=
    if append then { config.dictionary with categoryMode := .append } else config.dictionary
  let source := fileSource wording files rows categories
  ((source.catalog layout).outcome.mapError dictionaryFailure).map dictionaryPage

/-- The variables that can be queried, from the rows alone. -/
def queryableIn (wording : Wording) (files : Files) (config : Config) (rows : String) :
    Except String (List String) :=
  let declared := (fileSource wording files rows none).declared config.dictionary
  (declared.mapError dictionaryFailure).map Dictionary.queryable

def Command.run (wording : Wording) (files : Files) (config : Config) :
    Command → Except String Page
  | query q => runQuery wording files q
  | dictionary rows categories append =>
    runDictionary wording files config rows categories append
  | identifiers rows => (queryableIn wording files config rows).map identifiersPage
  | categoryForm rows =>
    (queryableIn wording files config rows).map fun vs => formPage (config.database.fields vs)

def Invocation.result (wording : Wording) (files : Files) (i : Invocation) :
    Except String Page := do
  let config ← loadConfig wording files i.config
  i.command.run wording files config

def Invocation.run (wording : Wording) (files : Files) (i : Invocation) : Outcome :=
  Outcome.ofResult i.output i.quiet (i.result wording files)

/-- The paths that running may read. -/
def Command.paths : Command → List String
  | query (.file path) => [path]
  | query _ => []
  | dictionary rows categories _ => rows :: categories.toList
  | identifiers rows => [rows]
  | categoryForm rows => [rows]

def Invocation.paths (i : Invocation) : List String :=
  i.config.getD defaultConfig :: i.command.paths

def usageText : String :=
  "usage: redatam [--output text|json] [--quiet] [--config FILE] COMMAND\n"

/-- The help starts with these lines; the lists of commands and options behind them are left out. -/
def Question.answer : Question → String
  | help => "REDATAM query and dictionary toolkit\n\n" ++ usageText
  | version => "redatam 0.1.0\n"

def CommandLine.run (wording : Wording) (files : Files) : CommandLine → Outcome
  | asked q => ⟨0, q.answer, ""⟩
  | wrong => ⟨2, "", usageText⟩
  | invoke i => i.run wording files

end Census.Cli
