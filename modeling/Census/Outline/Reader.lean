import Census.Outline.Fault

/-!
Readers of outlines. A struct is a record of named fields, or a list of their values in order;
its reader meets the faults of a record in the order of the text and asks for missing fields last.
-/

namespace Census

/-- Where an outline comes from. This decides how a list with too many items is taken, and
which outlines can name a variant. -/
inductive Manner where
  | json
  | toml
  /-- Read whole before it is interpreted. -/
  | held
  deriving DecidableEq, Repr

/-- A reader of values of one type. -/
abbrev Reader (α : Type) := Outline → Except ReadError α

namespace Reader

def text : Reader String
  | .text s => .ok s
  | o => .error (o.mismatch .string)

def flag : Reader Bool
  | .bool b => .ok b
  | o => .error (o.mismatch .boolean)

/-- Null stands for absence. -/
def optional {α : Type} (read : Reader α) : Reader (Option α)
  | .null => .ok none
  | o => (read o).map some

def sequence {α : Type} (read : Reader α) : Reader (List α)
  | .list items => items.mapM read
  | o => .error (o.mismatch .sequence)

/-- A field of a struct: reading its value changes the struct read so far. -/
structure Field (α : Type) where
  name : String
  required : Bool
  read : Outline → α → Except ReadError α

namespace Field

def make {α β : Type} (name : String) (required : Bool) (read : Reader β) (set : β → α → α) :
    Field α :=
  ⟨name, required, fun o a => (read o).map fun b => set b a⟩

end Field

/-- A struct: its name, its fields in order, whether other keys are refused, and the struct
before any field has been read. -/
structure Struct (α : Type) where
  name : String
  fields : List (Field α)
  strict : Bool
  initial : α

namespace Struct

variable {α : Type}

def fieldNames (s : Struct α) : List String :=
  s.fields.map Field.name

/-- Reads entries in order; `seen` are the fields read so far. -/
def readEntries (s : Struct α) (seen : List String) (a : α) :
    List (Option String × Outline) → Except ReadError (List String × α)
  | [] => .ok (seen, a)
  | (none, _) :: _ => .error .malformed
  | (some key, o) :: later =>
    match s.fields.find? fun f => f.name == key with
    | some f =>
      -- A repeated key is met before its value.
      if key ∈ seen then .error (.unfit (.duplicateField key))
      else do
        let a ← f.read o a
        s.readEntries (key :: seen) a later
    | none =>
      if s.strict then .error (.unfit (.unknownField key s.fieldNames))
      else if o.isWhole then s.readEntries seen a later
      else .error .malformed

/-- Refuses a struct that lacks a required field. -/
def complete (s : Struct α) (seen : List String) (a : α) : Except ReadError α :=
  match s.fields.find? fun f => f.required && !seen.contains f.name with
  | some f => .error (.unfit (.missingField f.name))
  | none => .ok a

def readRecord (s : Struct α) (entries : List (Option String × Outline)) :
    Except ReadError α := do
  let (seen, a) ← s.readEntries [] s.initial entries
  s.complete seen a

/-- Takes or refuses items beyond the last field. -/
def surplus (s : Struct α) (manner : Manner) (items : List Outline) (a : α) :
    Except ReadError α :=
  match manner, items with
  | _, [] => .ok a
  | .toml, _ => .ok a
  | .json, _ => .error .malformed
  | .held, _ =>
    .error (.unfit (.surplusItems (s.fields.length + items.length) s.fields.length))

/-- Reads the values of these fields in order, the first of them being item number `n`. -/
def readItems (s : Struct α) (manner : Manner) (n : Nat) (a : α) :
    List (Field α) → List Outline → Except ReadError α
  | [], items => s.surplus manner items a
  | f :: fields, [] =>
    if f.required then .error (.unfit (.shortStruct n s.name s.fields.length))
    else s.readItems manner (n + 1) a fields []
  | f :: fields, o :: items => do
    let a ← f.read o a
    s.readItems manner (n + 1) a fields items

def read (s : Struct α) (manner : Manner) : Reader α
  | .record entries => s.readRecord entries
  | .list items => s.readItems manner 0 s.initial s.fields items
  | o => .error (o.mismatch (.struct s.name))

end Struct

/-- The variant of this name. -/
def namedVariant {α : Type} (variants : List (String × α)) (name : String) :
    Except ReadError α :=
  match variants.find? fun v => v.1 == name with
  | some v => .ok v.2
  | none => .error (.unfit (.unknownVariant name (variants.map Prod.fst)))

/-- What a message calls a value that is no table. -/
def valueName : Outline → String
  | .text _ => "string"
  | .whole _ => "integer"
  | .real _ => "float"
  | .bool _ => "boolean"
  | _ => "value"

/-- Refuses anything that comes with a variant but an empty table. -/
def emptyTable : Outline → Except ReadError Unit
  | .record [] => .ok ()
  | .list [] => .ok ()
  | .record _ => .error (.unfit .filledVariant)
  | .list _ => .error (.unfit .filledVariant)
  | o => .error (.unfit (.variantValue (valueName o)))

/-- A variant named by a text, or by the only key of a record with nothing behind it. -/
def variant {α : Type} (variants : List (String × α)) (manner : Manner) : Reader α
  | .text s => namedVariant variants s
  | .record entries =>
    match manner, entries with
    | .toml, [(some key, o)] => do
      let a ← namedVariant variants key
      emptyTable o
      return a
    | .toml, [] => .error (.unfit (.variantCount false))
    | .toml, _ => .error (.unfit (.variantCount true))
    | _, (some key, o) :: later => do
      let a ← namedVariant variants key
      match o, later with
      | .null, [] => .ok a
      | .null, _ => .error .malformed
      | o, _ => .error (o.mismatch .unit)
    | _, _ => .error .malformed
  | _ => .error (if manner = .toml then .unfit .notVariant else .malformed)

end Reader

end Census
