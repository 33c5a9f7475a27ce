/-!
Conventions of the two metadata feeds.
-/

namespace Census

/-- How the last entity of the table is classed. -/
inductive TrailingEntity where
  /-- It is a data entity; geographic variables in it contradict the layout. -/
  | alwaysData
  /-- By its type tags, as any other entity. -/
  | classify
  deriving DecidableEq, Repr

/-- What becomes of the categories a variable already has. -/
inductive CategoryMode where
  /-- The first category line for a variable in a feed clears its list. -/
  | replace
  | append
  deriving DecidableEq, Repr

structure Layout where
  /-- The type tag of a geographic code variable. -/
  geoTypeTag : String := "C"
  trailingEntity : TrailingEntity := .alwaysData
  /-- The label of a line that names a variable. -/
  nameLabel : String := "Nombre"
  /-- The label of a line that names an entity. -/
  entityLabel : String := "Entidad"
  categoryMode : CategoryMode := .replace
  deriving DecidableEq, Repr

end Census
