import Census.Query.Document

/-!
Requests for a query: what a caller fills in. An optional text that is empty counts as absent
when the query is written.
-/

namespace Census.Query

/-- Variables listed for each area of a level. -/
structure AreaListRequest where
  areaLevel : String
  identifiers : List String
  areaFilter : Option AreaFilter := none
  universeFilter : Option String := none
  title : Option String := none
  /-- Puts the name of the area before the variables. -/
  includeAreaName : Bool := false
  deriving DecidableEq, Repr

/-- The number of records of an entity in each area of a level. -/
structure CounterRequest where
  areaLevel : String
  countedEntity : String
  areaFilter : Option AreaFilter := none
  universeFilter : Option String := none
  title : Option String := none
  includeAreaName : Bool := false
  /-- Adds a line with the grand total. -/
  includeTotal : Bool := false
  deriving DecidableEq, Repr

/-- The median of a variable, broken down by up to two others. -/
structure MedianRequest where
  variableName : String
  byVar1 : Option String := none
  byVar2 : Option String := none
  /-- Prints the names of categories instead of their codes. -/
  includeFullNames : Bool := false
  areaBreak : Option String := none
  areaFilter : Option AreaFilter := none
  universeFilter : Option String := none
  title : Option String := none
  deriving DecidableEq, Repr

inductive Request where
  | areaList (q : AreaListRequest)
  | counter (q : CounterRequest)
  | median (q : MedianRequest)
  | reserved (r : Reserved)
  deriving DecidableEq, Repr

def Request.kind : Request → Kind
  | areaList _ => .areaList
  | counter _ => .counter
  | median _ => .median
  | reserved r => .reserved r

/-- An empty text counts as absent. -/
def present (value : Option String) : Option String :=
  value.filter fun v => v != ""

/-- The variable that holds the name of an area of this level. -/
def areaNameVariable (areaLevel : String) : String :=
  areaLevel ++ ".NOM" ++ areaLevel

/-- The variable that a counter query defines. -/
def counterVariable (areaLevel : String) : String :=
  areaLevel ++ ".COUNTER"

/-- Variables of an area table, with the area's name in front if it is wanted. -/
def areaSubject (areaLevel : String) (identifiers : List String) (named : Bool) : Subject :=
  .grouped areaLevel ((if named then [areaNameVariable areaLevel] else []) ++ identifiers)

def AreaListRequest.document (q : AreaListRequest) : Except Error Document :=
  if Text.isBlankText q.areaLevel then .error .emptyAreaLevel
  else if q.identifiers.isEmpty then .error .emptyVariables
  else .ok {
    areaFilter := q.areaFilter
    universeFilter := present q.universeFilter
    table := {
      title := present q.title
      kind := .areaList
      subject := areaSubject q.areaLevel q.identifiers q.includeAreaName } }

def CounterRequest.document (q : CounterRequest) : Except Error Document :=
  if Text.isBlankText q.areaLevel then .error .emptyAreaLevel
  else if Text.isBlankText q.countedEntity then .error .emptyCountedEntity
  else .ok {
    areaFilter := q.areaFilter
    universeFilter := present q.universeFilter
    defines := [Define.count (counterVariable q.areaLevel) q.countedEntity]
    table := {
      title := present q.title
      kind := .areaList
      subject := areaSubject q.areaLevel [counterVariable q.areaLevel] q.includeAreaName
      total := q.includeTotal } }

def MedianRequest.document (q : MedianRequest) : Except Error Document :=
  if Text.isBlankText q.variableName then .error .emptyVariables
  else .ok {
    areaFilter := q.areaFilter
    universeFilter := present q.universeFilter
    table := {
      title := present q.title
      kind := .median
      subject := .single q.variableName
      breakdowns := [q.byVar1, q.byVar2].filterMap present
      completeNames := q.includeFullNames
      areaBreak := present q.areaBreak } }

def Request.document : Request → Except Error Document
  | areaList q => q.document
  | counter q => q.document
  | median q => q.document
  | reserved r => .error (.reserved r)

/-- The text of the query asked for. -/
def Request.text (r : Request) : Except Error String :=
  r.document.map Document.render

end Census.Query
