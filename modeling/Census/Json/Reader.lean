import Census.Json.Token

/-!
From the tokens of a JSON text to its outline, by a stack of the lists and records that are
still open. Containers nested deeper than `maxDepth` can be skipped but not read.
-/

namespace Census.Json

/-- A container still open, with what it holds so far, last first. A record waits for the
value of a key. -/
inductive Frame where
  | list (held : List Outline)
  | record (held : List (Option String × Outline)) (key : Option String)

/-- What may come next. -/
inductive Place where
  /-- A value. -/
  | value (up : List Frame)
  /-- The first item of a list, or its end. -/
  | firstItem (up : List Frame)
  /-- The first key of a record, or its end. -/
  | firstKey (up : List Frame)
  /-- A key. -/
  | key (held : List (Option String × Outline)) (up : List Frame)
  /-- The colon after a key. -/
  | colon (held : List (Option String × Outline)) (key : Option String) (up : List Frame)
  /-- Whatever follows a value. -/
  | done (o : Outline) (up : List Frame)

/-- How deep containers may be nested to be read. -/
def maxDepth : Nat := 127

/-- A container that is closed below `up`. -/
def sealed (up : List Frame) (o : Outline) : Outline :=
  if up.length < maxDepth then o
  -- A container that breaks off stays broken, however deep it lies.
  else if o.isWhole then .unreadable
  else o

def textOutline : Option String → Outline
  | some s => .text s
  | none => .unreadable

/-- The place after a token that starts a value. -/
def startValue (up : List Frame) : Token → Option Place
  | .openRecord => some (.firstKey up)
  | .openList => some (.firstItem up)
  | .text s => some (.done (textOutline s) up)
  | .atom o => some (.done o up)
  | _ => none

/-- The place after a token that follows a value. -/
def afterValue (o : Outline) : List Frame → Token → Option Place
  | .list held :: up, .comma => some (.value (.list (o :: held) :: up))
  | .list held :: up, .closeList => some (.done (sealed up (.list (o :: held).reverse)) up)
  | .record held key :: up, .comma => some (.key ((key, o) :: held) up)
  | .record held key :: up, .closeRecord =>
    some (.done (sealed up (.record ((key, o) :: held).reverse)) up)
  | _, _ => none

/-- The next place, unless the token does not fit. -/
def Place.step : Place → Token → Option Place
  | value up, t => startValue up t
  | firstItem up, .closeList => some (done (sealed up (.list [])) up)
  | firstItem up, t => startValue (.list [] :: up) t
  | firstKey up, .closeRecord => some (done (sealed up (.record [])) up)
  | firstKey up, .text k => some (colon [] k up)
  | firstKey _, _ => none
  | key held up, .text k => some (colon held k up)
  | key _ _, _ => none
  | colon held k up, .colon => some (value (.record held k :: up))
  | colon _ _ _, _ => none
  | done o up, t => afterValue o up t

/-- The outline of a text that ends, or goes wrong, inside these containers. -/
def breakOff (o : Outline) : List Frame → Outline
  | [] => o
  | .list held :: up => breakOff (.list (o :: held).reverse) up
  | .record held key :: up => breakOff (.record ((key, o) :: held).reverse) up

/-- The outline of a text that breaks off at a place. -/
def Place.broken : Place → Outline
  | value up => breakOff .broken up
  | firstItem up => breakOff (.list [.broken]) up
  | firstKey up => breakOff (.record [(none, .broken)]) up
  | key held up => breakOff (.record ((none, .broken) :: held).reverse) up
  | colon held k up => breakOff (.record ((k, .broken) :: held).reverse) up
  | done o [] => o
  | done o (.list held :: up) => breakOff (.list (.broken :: o :: held).reverse) up
  | done o (.record held k :: up) =>
    breakOff (.record ((none, .broken) :: (k, o) :: held).reverse) up

/-- A whole text read: its outline, and whether the text ends where its value ends. -/
structure Reading where
  outline : Outline
  ends : Bool

def Place.ends : Place → Bool
  | done _ [] => true
  | _ => false

/-- Reads on from a place. -/
def run (p : Place) : List Token → Reading
  | [] => ⟨p.broken, p.ends⟩
  | t :: later =>
    match p.step t with
    | some q => run q later
    | none => ⟨p.broken, false⟩

def read (s : String) : Reading :=
  run (.value []) (tokens s.toList)

end Census.Json
