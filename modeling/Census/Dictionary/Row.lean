import Census.Dictionary.Basic
import Census.Dictionary.Layout
import Census.Dictionary.Error
import Census.Text.Blank
import Census.Text.Lines

/-!
Rows of the metadata table and the dictionary they declare. Rows that follow one another with
the same entity code form one entity; the first of them only names it.
-/

namespace Census

structure Row where
  /-- The entity's code, a point, the number of the variable. -/
  code : String
  entityName : String
  variableName : String := ""
  typeTag : String := ""
  deriving DecidableEq, Repr

/-- The part of the code before the first point. -/
def Row.entityCode (r : Row) : String :=
  match Text.cut? '.' (Text.trimChars r.code.toList) with
  | some (before, _) => String.ofList (Text.trimChars before)
  | none => Text.trim r.code

/-- What a row declares beyond the first row of its entity, unless its variable is blank. -/
def Row.declares? (r : Row) : Option Variable :=
  let name := Text.trim r.variableName
  if name = "" then none else some { name, typeTag := Text.trim r.typeTag }

/-- An entity whose rows are still being read. -/
structure OpenEntity where
  code : String
  name : String
  vars : List Variable := []
  deriving DecidableEq, Repr

namespace OpenEntity

def isGeographic (e : OpenEntity) (layout : Layout) : Bool :=
  e.vars.any fun v => v.typeTag == layout.geoTypeTag

def close (e : OpenEntity) (kind : EntityKind) : Entity :=
  ⟨e.code, e.name, kind, e.vars⟩

/-- Closes an entity by its type tags. -/
def classed (e : OpenEntity) (layout : Layout) : Entity :=
  e.close (if e.isGeographic layout then .geographic else .data)

/-- Closes the last entity of the table. -/
def trailing (e : OpenEntity) (layout : Layout) : Except DictionaryError Entity :=
  match layout.trailingEntity with
  | .classify => .ok (e.classed layout)
  | .alwaysData =>
    if e.isGeographic layout then .error (.trailingEntityGeographic e.name)
    else .ok (e.close .data)

/-- Adds what the row numbered `n` declares. -/
def extend (e : OpenEntity) (r : Row) (n : Nat) : Except DictionaryError OpenEntity :=
  match r.declares? with
  | none => .ok e
  | some v =>
    if e.vars.any fun w => w.name == v.name then
      .error (.duplicateVariable e.name v.name n)
    else .ok { e with vars := e.vars ++ [v] }

end OpenEntity

/-- How far a table has been read: the entities closed so far and the one still open. -/
structure Intake where
  closed : List Entity := []
  current : Option OpenEntity := none
  deriving DecidableEq, Repr

namespace Intake

/-- Opens the entity that row `n` names. -/
def start (entities : List Entity) (code : String) (r : Row) (n : Nat) :
    Except DictionaryError Intake :=
  let name := Text.trim r.entityName
  if entities.any fun e => e.name == name then .error (.duplicateEntity name n)
  else .ok ⟨entities, some { code, name }⟩

/-- Takes in the row numbered `n`. -/
def step (layout : Layout) (s : Intake) (r : Row) (n : Nat) : Except DictionaryError Intake :=
  let code := r.entityCode
  if code = "" then .error (.missingEntityCode n)
  else
    match s.current with
    | none => start s.closed code r n
    | some e =>
      -- Only a change of code closes an entity; its name is not looked at again.
      if e.code = code then (e.extend r n).map fun e => { s with current := some e }
      else start (s.closed ++ [e.classed layout]) code r n

/-- Takes in rows, the first of which is numbered `n`. -/
def run (layout : Layout) (s : Intake) : List Row → Nat → Except DictionaryError Intake
  | [], _ => .ok s
  | r :: rows, n => do
    let s ← s.step layout r n
    s.run layout rows (n + 1)

def finish (layout : Layout) (s : Intake) : Except DictionaryError Dictionary :=
  match s.current with
  | none => .ok ⟨s.closed⟩
  | some e => (e.trailing layout).map fun last => ⟨s.closed ++ [last]⟩

end Intake

/-- The dictionary that a metadata table declares; no variable has categories yet. -/
def Dictionary.ofRows (layout : Layout) (rows : List Row) : Except DictionaryError Dictionary := do
  let s ← Intake.run layout {} rows 1
  s.finish layout

end Census
