/-!
A census dictionary: entities in order, the variables of each, the categories of each variable.
Looking up a name finds the first entry of that name.
-/

namespace Census

/-- One valid value of a variable. -/
structure Category where
  code : String
  label : String
  deriving DecidableEq, Repr

structure Variable where
  name : String
  typeTag : String
  categories : List Category := []
  deriving DecidableEq, Repr

inductive EntityKind where
  /-- An area level: it has a geographic code variable. -/
  | geographic
  /-- Carries attributes that can be queried. -/
  | data
  deriving DecidableEq, Repr

def EntityKind.name : EntityKind → String
  | geographic => "geographic"
  | data => "data"

structure Entity where
  code : String
  name : String
  kind : EntityKind
  vars : List Variable
  deriving DecidableEq, Repr

structure Dictionary where
  entities : List Entity := []
  deriving DecidableEq, Repr

def Entity.lookup? (e : Entity) (name : String) : Option Variable :=
  e.vars.find? fun v => v.name == name

namespace Dictionary

def size (d : Dictionary) : Nat :=
  d.entities.length

def isEmpty (d : Dictionary) : Bool :=
  d.entities.isEmpty

def entity? (d : Dictionary) (name : String) : Option Entity :=
  d.entities.find? fun e => e.name == name

def lookup? (d : Dictionary) (entity name : String) : Option Variable :=
  (d.entity? entity).bind fun e => e.lookup? name

def categories? (d : Dictionary) (entity name : String) : Option (List Category) :=
  (d.lookup? entity name).map Variable.categories

/-- Names of the entities of one kind, in dictionary order. -/
def namesOf (d : Dictionary) (kind : EntityKind) : List String :=
  (d.entities.filter fun e => e.kind = kind).map Entity.name

/-- The identifier by which a query names a variable. -/
def identifier (entity name : String) : String :=
  entity ++ "." ++ name

/-- Identifiers of all variables of data entities. Geographic entities are area levels and
cannot be queried. -/
def queryable (d : Dictionary) : List String :=
  (d.entities.filter fun e => e.kind = .data).flatMap fun e =>
    e.vars.map fun v => identifier e.name v.name

end Dictionary

/-- Changes the first element that satisfies `p`. -/
def updateFirst {α : Type} (p : α → Bool) (f : α → α) : List α → List α
  | [] => []
  | a :: as => if p a then f a :: as else a :: updateFirst p f as

def Variable.updateCategories (f : List Category → List Category) (v : Variable) : Variable :=
  { v with categories := f v.categories }

def Entity.updateCategories (name : String) (f : List Category → List Category) (e : Entity) :
    Entity :=
  { e with
    vars := updateFirst (fun v => v.name == name) (Variable.updateCategories f) e.vars }

/-- Changes the categories of the variable `name` of `entity`. -/
def Dictionary.updateCategories (d : Dictionary) (entity name : String)
    (f : List Category → List Category) : Dictionary :=
  ⟨updateFirst (fun e => e.name == entity) (Entity.updateCategories name f) d.entities⟩

end Census
