import Census.Query.AreaFilter

/-!
A query document and its text: the run definition, any number of derived variables, one table.
`Document.render` gives the lines joined by line feeds, with none after the last.
-/

namespace Census.Query

/-- A derived variable, always of integer type. -/
structure Define where
  name : String
  expression : String
  deriving DecidableEq, Repr

/-- The variable `name` that counts the records of `entity`. -/
def Define.count (name entity : String) : Define :=
  ⟨name, "COUNT " ++ entity⟩

inductive TableKind where
  | areaList
  | median
  deriving DecidableEq, Repr

def TableKind.keyword : TableKind → String
  | areaList => "AREALIST"
  | median => "MEDIAN"

/-- What a table is made of. -/
inductive Subject where
  | grouped (areaLevel : String) (identifiers : List String)
  | single (name : String)
  deriving DecidableEq, Repr

structure Table where
  title : Option String := none
  kind : TableKind
  subject : Subject
  breakdowns : List String := []
  completeNames : Bool := false
  areaBreak : Option String := none
  total : Bool := false
  deriving DecidableEq, Repr

structure Document where
  areaFilter : Option AreaFilter := none
  universeFilter : Option String := none
  defines : List Define := []
  table : Table
  deriving DecidableEq, Repr

/-- Four blanks. -/
def indent : String := "    "

/-- Eight blanks. -/
def deepIndent : String := "        "

/-- A list as it stands in a query. -/
def listed (items : List String) : String :=
  ", ".intercalate items

/-- The codes stand one blank deeper than the selection they belong to. -/
def AreaFilter.lines (f : AreaFilter) : List String :=
  [indent ++ "SELECTION INLINE,", indent ++ " " ++ f.areaType ++ " " ++ listed f.codes]

def Define.lines (d : Define) : List String :=
  ["DEFINE " ++ d.name, indent ++ "AS " ++ d.expression, indent ++ "TYPE INTEGER", ""]

def Subject.line : Subject → String
  | grouped areaLevel identifiers => indent ++ "OF " ++ areaLevel ++ ", " ++ listed identifiers
  | single name => indent ++ "OF " ++ name

/-- The lines of an optional clause. -/
def clause (write : String → String) (value : Option String) : List String :=
  value.toList.map write

def Table.lines (t : Table) : List String :=
  ["TABLE TABLE1"]
    ++ clause (fun title => indent ++ "TITLE \"" ++ title ++ "\"") t.title
    ++ [indent ++ "AS " ++ t.kind.keyword, t.subject.line]
    ++ t.breakdowns.map (fun b => deepIndent ++ "BY " ++ b)
    ++ (if t.completeNames then [deepIndent ++ "COMPLETENAME"] else [])
    ++ clause (fun e => indent ++ "AREABREAK " ++ e) t.areaBreak
    ++ (if t.total then [indent ++ "TOTAL"] else [])

namespace Document

/-- The lines up to the empty one that ends the run definition. -/
def runLines (d : Document) : List String :=
  ["RUNDEF Job"]
    ++ (d.areaFilter.elim [] AreaFilter.lines)
    ++ clause (fun u => indent ++ "UNIVERSE " ++ u) d.universeFilter
    ++ [""]

def lines (d : Document) : List String :=
  d.runLines ++ d.defines.flatMap Define.lines ++ d.table.lines

def render (d : Document) : String :=
  "\n".intercalate d.lines

end Document

end Census.Query
