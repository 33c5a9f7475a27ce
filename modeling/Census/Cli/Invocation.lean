import Census.Cli.Arguments
import Census.Query.Request

/-!
Invocations: what a command line asks for. Output format, quiet switch and configuration file
may be given at any level, and the innermost level that gives one counts.

Of the help there is, only that on the whole tool is here, asked for in front of the command as the
version is. Help on a single command, by an option behind its name or by the command `help`, is left
to the argument parser of the tool; such a line comes to `CommandLine.wrong`.
-/

namespace Census.Cli

inductive Output where
  | text
  | json
  deriving DecidableEq, Repr

inductive QueryCommand where
  | areaList (q : Query.AreaListRequest)
  | counter (q : Query.CounterRequest)
  /-- The request without its breakdowns, and the breakdowns as given. -/
  | median (q : Query.MedianRequest) (breakdowns : List String)
  | reserved (r : Query.Reserved)
  | file (path : String)
  deriving DecidableEq, Repr

inductive Command where
  | query (q : QueryCommand)
  | dictionary (rows : String) (categories : Option String) (append : Bool)
  | identifiers (rows : String)
  | categoryForm (rows : String)
  deriving DecidableEq, Repr

structure Invocation where
  output : Output := .text
  quiet : Bool := false
  config : Option String := none
  command : Command
  deriving DecidableEq, Repr

/-- What a command line amounts to. -/
inductive CommandLine where
  | asked (q : Question)
  | wrong
  | invoke (i : Invocation)
  deriving DecidableEq, Repr

def output? : String → Option Output
  | "text" => some .text
  | "json" => some .json
  | _ => none

/-- Options that every level takes. -/
def globals : List Opt :=
  [{ name := "output", arity := .once, accepts := fun v => (output? v).isSome },
   { name := "quiet", arity := .flag },
   { name := "config", arity := .once, accepts := isPath }]

/-- Options that restrict or title a query. -/
def filters : List Opt :=
  [{ name := "area-type", arity := .once }, { name := "area", arity := .many },
   { name := "universe", arity := .once }, { name := "title", arity := .once }]

def root : Level where
  options := globals
  commands := ["query", "dictionary", "variables", "category-form"]
  answers := true

def queryLevel : Level where
  options := globals
  commands := ["arealist", "counter", "median", "mean", "cross", "frequencies", "stats", "file"]

def areaListLevel : Level where
  options := globals ++ filters ++
    [{ name := "area-level", arity := .once }, { name := "var", arity := .many },
     { name := "area-name", arity := .flag }]

def counterLevel : Level where
  options := globals ++ filters ++
    [{ name := "area-level", arity := .once }, { name := "count", arity := .once },
     { name := "area-name", arity := .flag }, { name := "total", arity := .flag }]

def medianLevel : Level where
  options := globals ++ filters ++
    [{ name := "var", arity := .once }, { name := "by", arity := .many },
     { name := "complete-names", arity := .flag }, { name := "area-break", arity := .once }]

def reservedLevel : Level where
  options := globals

def fileLevel : Level where
  options := globals
  paths := 1

def rowsOption : Opt :=
  { name := "rows", arity := .once, accepts := isPath }

def dictionaryLevel : Level where
  options := globals ++
    [rowsOption, { name := "categories", arity := .once, accepts := isPath },
     { name := "append", arity := .flag }]

def rowsLevel : Level where
  options := globals ++ [rowsOption]

/-- The area filter given. Area type and areas need one another. -/
def areaFilter? (g : Given) : Option (Option Query.AreaFilter) :=
  match g.lookup "area-type", g.all "area" with
  | none, [] => some none
  | some areaType, code :: codes => some (some ⟨areaType, code :: codes, List.cons_ne_nil _ _⟩)
  | _, _ => none

def areaList? (g : Given) : Option QueryCommand := do
  let areaFilter ← areaFilter? g
  let areaLevel ← g.lookup "area-level"
  let identifiers ← match g.all "var" with
    | [] => none
    | identifiers => some identifiers
  return .areaList {
    areaLevel, identifiers, areaFilter
    universeFilter := g.lookup "universe"
    title := g.lookup "title"
    includeAreaName := g.has "area-name" }

def counter? (g : Given) : Option QueryCommand := do
  let areaFilter ← areaFilter? g
  let areaLevel ← g.lookup "area-level"
  let countedEntity ← g.lookup "count"
  return .counter {
    areaLevel, countedEntity, areaFilter
    universeFilter := g.lookup "universe"
    title := g.lookup "title"
    includeAreaName := g.has "area-name"
    includeTotal := g.has "total" }

def median? (g : Given) : Option QueryCommand := do
  let areaFilter ← areaFilter? g
  let variableName ← g.lookup "var"
  let request : Query.MedianRequest := {
    variableName, areaFilter
    includeFullNames := g.has "complete-names"
    areaBreak := g.lookup "area-break"
    universeFilter := g.lookup "universe"
    title := g.lookup "title" }
  return .median request (g.all "by")

def dictionary? (g : Given) : Option Command := do
  let rows ← g.lookup "rows"
  return .dictionary rows (g.lookup "categories") (g.has "append")

def identifiers? (g : Given) : Option Command :=
  (g.lookup "rows").map .identifiers

def categoryForm? (g : Given) : Option Command :=
  (g.lookup "rows").map .categoryForm

/-- An invocation whose levels gave these options, the innermost first. -/
def invocation (levels : List Given) (command : Command) : Invocation where
  output := (levels.findSome? fun g => (g.lookup "output").bind output?).getD .text
  quiet := levels.any fun g => g.has "quiet"
  config := levels.findSome? fun g => g.lookup "config"
  command := command

/-- Reads the last level; `outer` are the options of the levels around it. -/
def leaf (l : Level) (outer : List Given) (command? : Given → List String → Option Command)
    (args : List String) : CommandLine :=
  match l.read args with
  | .done given paths =>
    match command? given paths with
    | some command => .invoke (invocation (given :: outer) command)
    | none => .wrong
  | _ => .wrong

/-- Reads a query command behind its name. -/
def queryLeaf (outer : List Given) (name : String) (args : List String) : CommandLine :=
  let reserved (r : Query.Reserved) : CommandLine :=
    leaf reservedLevel outer (fun _ _ => some (.query (.reserved r))) args
  match name with
  | "arealist" => leaf areaListLevel outer (fun g _ => (areaList? g).map .query) args
  | "counter" => leaf counterLevel outer (fun g _ => (counter? g).map .query) args
  | "median" => leaf medianLevel outer (fun g _ => (median? g).map .query) args
  | "mean" => reserved .mean
  | "cross" => reserved .cross
  | "frequencies" => reserved .frequencies
  | "stats" => reserved .stats
  | "file" => leaf fileLevel outer (fun _ paths => paths.head?.map fun p => .query (.file p)) args
  | _ => .wrong

/-- Reads a command behind its name. -/
def rootLeaf (outer : List Given) (name : String) (args : List String) : CommandLine :=
  match name with
  | "query" =>
    match queryLevel.read args with
    | .command given name later => queryLeaf (given :: outer) name later
    | _ => .wrong
  | "dictionary" => leaf dictionaryLevel outer (fun g _ => dictionary? g) args
  | "variables" => leaf rowsLevel outer (fun g _ => identifiers? g) args
  | "category-form" => leaf rowsLevel outer (fun g _ => categoryForm? g) args
  | _ => .wrong

def CommandLine.ofArguments (args : List String) : CommandLine :=
  match root.read args with
  | .asked q => .asked q
  | .command given name later => rootLeaf [given] name later
  | _ => .wrong

end Census.Cli
