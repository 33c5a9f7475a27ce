import Census.Json.Value
import Census.Query.Request

/-!
Requests as JSON: every field, in the order of the struct, absent options as null. Codes and
variables are written as lists, except codes that stand alone by themselves.
-/

namespace Census.Query

/-- An optional value, null when absent. -/
def optionalJson {α : Type} (write : α → Json) : Option α → Json
  | none => .null
  | some a => write a

def AreaCodes.toJson : AreaCodes → Json
  | one code => .text code
  | many codes => .texts codes

def AreaFilter.toJson (f : AreaFilter) : Json :=
  .record [(f.areaType, .texts f.codes)]

def Kind.toJson (k : Kind) : Json :=
  .text k.name

def AreaListRequest.entries (q : AreaListRequest) : List (String × Json) :=
  [("area_level", .text q.areaLevel), ("variables", .texts q.identifiers),
   ("area_filter", optionalJson AreaFilter.toJson q.areaFilter),
   ("universe_filter", optionalJson .text q.universeFilter),
   ("title", optionalJson .text q.title), ("include_area_name", .bool q.includeAreaName)]

def CounterRequest.entries (q : CounterRequest) : List (String × Json) :=
  [("area_level", .text q.areaLevel), ("counted_entity", .text q.countedEntity),
   ("area_filter", optionalJson AreaFilter.toJson q.areaFilter),
   ("universe_filter", optionalJson .text q.universeFilter),
   ("title", optionalJson .text q.title), ("include_area_name", .bool q.includeAreaName),
   ("include_total", .bool q.includeTotal)]

def MedianRequest.entries (q : MedianRequest) : List (String × Json) :=
  [("variable", .text q.variableName), ("by_var1", optionalJson .text q.byVar1),
   ("by_var2", optionalJson .text q.byVar2), ("include_full_names", .bool q.includeFullNames),
   ("area_break", optionalJson .text q.areaBreak),
   ("area_filter", optionalJson AreaFilter.toJson q.areaFilter),
   ("universe_filter", optionalJson .text q.universeFilter),
   ("title", optionalJson .text q.title)]

def AreaListRequest.toJson (q : AreaListRequest) : Json := .record q.entries

def CounterRequest.toJson (q : CounterRequest) : Json := .record q.entries

def MedianRequest.toJson (q : MedianRequest) : Json := .record q.entries

/-- The fields of a request besides its kind. -/
def Request.entries : Request → List (String × Json)
  | areaList q => q.entries
  | counter q => q.entries
  | median q => q.entries
  | reserved _ => []

def Request.toJson (r : Request) : Json :=
  .record (("kind", r.kind.toJson) :: r.entries)

end Census.Query
