import Census.Outline.Reader
import Census.Query.Request

/-!
Reading query requests. A tagged request carries its kind in the field `kind`, which is read at
once; everything else is held until the kind is known.
-/

namespace Census.Query

open Reader (Field Struct)

/-- One text or a list of texts, read whole first. -/
def readCodes (o : Outline) : Except ReadError AreaCodes :=
  if o.isReadable then
    match o with
    | .text s => .ok (.one s)
    | .list items =>
      match items.mapM Reader.text with
      | .ok codes => .ok (.many codes)
      | .error _ => .error (.unfit .notCodes)
    | _ => .error (.unfit .notCodes)
  else .error .malformed

def readVariables (o : Outline) : Except ReadError (List String) :=
  (readCodes o).map AreaCodes.toList

/-- The entries of a filter, in order. -/
def readFilterEntries : List (Option String × Outline) →
    Except ReadError (List (String × AreaCodes))
  | [] => .ok []
  | (none, _) :: _ => .error .malformed
  | (some areaType, o) :: later => do
    let codes ← readCodes o
    let rest ← readFilterEntries later
    return (areaType, codes) :: rest

def readFilter : Reader AreaFilter
  | .record entries => do
    let entries ← readFilterEntries entries
    (AreaFilter.ofEntries entries).mapError fun e => .unfit (.filter e)
  | o => .error (o.mismatch .map)

namespace AreaListRequest

def struct : Struct AreaListRequest where
  name := "AreaListQuery"
  strict := true
  initial := { areaLevel := "", identifiers := [] }
  fields := [
    .make "area_level" true Reader.text fun v q => { q with areaLevel := v },
    .make "variables" true readVariables fun v q => { q with identifiers := v },
    .make "area_filter" false (Reader.optional readFilter) fun v q => { q with areaFilter := v },
    .make "universe_filter" false (Reader.optional Reader.text)
      fun v q => { q with universeFilter := v },
    .make "title" false (Reader.optional Reader.text) fun v q => { q with title := v },
    .make "include_area_name" false Reader.flag fun v q => { q with includeAreaName := v }]

end AreaListRequest

namespace CounterRequest

def struct : Struct CounterRequest where
  name := "CounterQuery"
  strict := true
  initial := { areaLevel := "", countedEntity := "" }
  fields := [
    .make "area_level" true Reader.text fun v q => { q with areaLevel := v },
    .make "counted_entity" true Reader.text fun v q => { q with countedEntity := v },
    .make "area_filter" false (Reader.optional readFilter) fun v q => { q with areaFilter := v },
    .make "universe_filter" false (Reader.optional Reader.text)
      fun v q => { q with universeFilter := v },
    .make "title" false (Reader.optional Reader.text) fun v q => { q with title := v },
    .make "include_area_name" false Reader.flag fun v q => { q with includeAreaName := v },
    .make "include_total" false Reader.flag fun v q => { q with includeTotal := v }]

end CounterRequest

namespace MedianRequest

def struct : Struct MedianRequest where
  name := "MedianQuery"
  strict := true
  initial := { variableName := "" }
  fields := [
    .make "variable" true Reader.text fun v q => { q with variableName := v },
    .make "by_var1" false (Reader.optional Reader.text) fun v q => { q with byVar1 := v },
    .make "by_var2" false (Reader.optional Reader.text) fun v q => { q with byVar2 := v },
    .make "include_full_names" false Reader.flag fun v q => { q with includeFullNames := v },
    .make "area_break" false (Reader.optional Reader.text) fun v q => { q with areaBreak := v },
    .make "area_filter" false (Reader.optional readFilter) fun v q => { q with areaFilter := v },
    .make "universe_filter" false (Reader.optional Reader.text)
      fun v q => { q with universeFilter := v },
    .make "title" false (Reader.optional Reader.text) fun v q => { q with title := v }]

end MedianRequest

/-- The kinds under their names. -/
def kindVariants : List (String × Kind) :=
  Kind.all.map fun k => (k.name, k)

def readKind (manner : Manner) : Reader Kind :=
  Reader.variant kindVariants manner

/-- The kind in the field `kind` of a request. -/
def readTag : Reader Kind
  | .text s => Reader.namedVariant kindVariants s
  | o => .error (o.mismatch .variantName)

/-- Parts a tagged record into its kind and its other entries. -/
def readTagged (kind : Option Kind) (kept : List (Option String × Outline)) :
    List (Option String × Outline) → Except ReadError (Option Kind × List (Option String × Outline))
  | [] => .ok (kind, kept)
  | (none, _) :: _ => .error .malformed
  | (some key, o) :: later =>
    if key = "kind" then
      match kind with
      | some _ => .error (.unfit (.duplicateField "kind"))
      | none => do
        let k ← readTag o
        readTagged (some k) kept later
    -- What is held must be readable even if the kind turns out not to need it.
    else if o.isReadable then readTagged kind (kept ++ [(some key, o)]) later
    else .error .malformed

/-- A kind held in reserve takes no notice of a record, and no list but the empty one. -/
def readReserved (r : Reserved) : Reader Request
  | .list (o :: items) => .error (.unfit (.surplusItems (o :: items).length 0))
  | _ => .ok (.reserved r)

/-- Reads what a request holds besides its kind. -/
def readContent : Kind → Reader Request
  | .areaList, o => (AreaListRequest.struct.read .held o).map .areaList
  | .counter, o => (CounterRequest.struct.read .held o).map .counter
  | .median, o => (MedianRequest.struct.read .held o).map .median
  | .reserved r, o => readReserved r o

def readRequest : Reader Request
  | .record entries => do
    match ← readTagged none [] entries with
    | (some kind, kept) => readContent kind (.record kept)
    | (none, _) => .error (.unfit (.missingField "kind"))
  | .list [] => .error (.unfit (.missingField "kind"))
  | .list (tag :: items) => do
    let kind ← readTag tag
    if (Outline.list items).isReadable then readContent kind (.list items)
    else .error .malformed
  | o => .error (o.mismatch .request)

end Census.Query
