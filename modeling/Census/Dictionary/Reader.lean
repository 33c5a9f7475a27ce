import Census.Dictionary.Form
import Census.Dictionary.Layout
import Census.Dictionary.Row
import Census.Outline.Reader

/-!
Reading metadata rows, layouts and category requests. Keys that mean nothing are skipped.
-/

namespace Census

open Reader (Struct)

namespace Row

def struct : Struct Row where
  name := "MetadataRow"
  strict := false
  initial := { code := "", entityName := "" }
  fields := [
    .make "code" true Reader.text fun v r => { r with code := v },
    .make "entity" true Reader.text fun v r => { r with entityName := v },
    .make "variable" false Reader.text fun v r => { r with variableName := v },
    .make "type" false Reader.text fun v r => { r with typeTag := v }]

end Row

/-- A metadata table. -/
def readRows (manner : Manner) : Reader (List Row) :=
  Reader.sequence (Row.struct.read manner)

def TrailingEntity.name : TrailingEntity → String
  | alwaysData => "always-data"
  | classify => "classify"

def CategoryMode.name : CategoryMode → String
  | replace => "replace"
  | append => "append"

def TrailingEntity.variants : List (String × TrailingEntity) :=
  [alwaysData, classify].map fun t => (t.name, t)

def CategoryMode.variants : List (String × CategoryMode) :=
  [replace, append].map fun m => (m.name, m)

namespace Layout

def struct (manner : Manner) : Struct Layout where
  name := "DictionaryLayout"
  strict := false
  initial := {}
  fields := [
    .make "geo_type_tag" false Reader.text fun v l => { l with geoTypeTag := v },
    .make "trailing_entity" false (Reader.variant TrailingEntity.variants manner)
      fun v l => { l with trailingEntity := v },
    .make "name_label" false Reader.text fun v l => { l with nameLabel := v },
    .make "entity_label" false Reader.text fun v l => { l with entityLabel := v },
    .make "category_mode" false (Reader.variant CategoryMode.variants manner)
      fun v l => { l with categoryMode := v }]

end Layout

namespace CategoryRequest

def struct : Struct CategoryRequest where
  name := "CategoryRequest"
  strict := false
  initial := {}
  fields := [
    .make "base" false Reader.text fun v r => { r with base := v },
    .make "main" false Reader.text fun v r => { r with main := v },
    .make "user_code" false Reader.text fun v r => { r with userCode := v }]

end CategoryRequest

end Census
