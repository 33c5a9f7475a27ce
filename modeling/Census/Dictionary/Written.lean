import Census.Dictionary.Reader
import Census.Json.Value

/-!
Dictionaries, rows, layouts and category requests as JSON. A dictionary is written entity by
entity and variable by variable, each category as a pair; codes of entities and type tags are
not written.
-/

namespace Census

def Category.toJson (c : Category) : Json :=
  .texts [c.code, c.label]

def Variable.entry (v : Variable) : String × Json :=
  (v.name, .list (v.categories.map Category.toJson))

def Entity.entry (e : Entity) : String × Json :=
  (e.name, .record (e.vars.map Variable.entry))

def Dictionary.toJson (d : Dictionary) : Json :=
  .record (d.entities.map Entity.entry)

/-- A dictionary with the names of its geographic and its data entities. -/
def Dictionary.buildJson (d : Dictionary) : Json :=
  .record [("dictionary", d.toJson), ("geo_entities", .texts (d.namesOf .geographic)),
    ("data_entities", .texts (d.namesOf .data))]

def Row.toJson (r : Row) : Json :=
  .record [("code", .text r.code), ("entity", .text r.entityName),
    ("variable", .text r.variableName), ("type", .text r.typeTag)]

/-- A metadata table. -/
def rowsJson (rows : List Row) : Json :=
  .list (rows.map Row.toJson)

def Layout.toJson (l : Layout) : Json :=
  .record [("geo_type_tag", .text l.geoTypeTag), ("trailing_entity", .text l.trailingEntity.name),
    ("name_label", .text l.nameLabel), ("entity_label", .text l.entityLabel),
    ("category_mode", .text l.categoryMode.name)]

def CategoryRequest.toJson (r : CategoryRequest) : Json :=
  .record [("base", .text r.base), ("main", .text r.main), ("user_code", .text r.userCode)]

/-- Form fields as pairs. -/
def fieldsJson (fields : List (String × String)) : Json :=
  .list (fields.map fun p => .texts [p.1, p.2])

end Census
