/-!
The outline of a structured text: the value that it writes, in the order of the text, with
repeated keys kept. A text that breaks off still has the outline of what came before, so that
a reader meets its faults in the order of the text.
-/

namespace Census

inductive Outline where
  | null
  | bool (b : Bool)
  | whole (n : Int)
  /-- A number that is not whole, known by the decimal that names it. -/
  | real (shown : String)
  | text (s : String)
  | list (items : List Outline)
  /-- Entries in order; an entry without a key is where the keys cannot be read. -/
  | record (entries : List (Option String × Outline))
  /-- Rightly written, but there is no value for it. -/
  | unreadable
  /-- The text breaks off here. -/
  | broken
  deriving Repr, Inhabited

namespace Outline

mutual

/-- Whether the text goes on to the end of the value, so that one can skip it. -/
def isWhole : Outline → Bool
  | broken => false
  | list items => allWhole items
  | record entries => entriesWhole entries
  | _ => true

def allWhole : List Outline → Bool
  | [] => true
  | o :: later => o.isWhole && allWhole later

def entriesWhole : List (Option String × Outline) → Bool
  | [] => true
  | (_, o) :: later => o.isWhole && entriesWhole later

end

mutual

/-- Whether every part has a value, so that one can read it. -/
def isReadable : Outline → Bool
  | broken => false
  | unreadable => false
  | list items => allReadable items
  | record entries => entriesReadable entries
  | _ => true

def allReadable : List Outline → Bool
  | [] => true
  | o :: later => o.isReadable && allReadable later

def entriesReadable : List (Option String × Outline) → Bool
  | [] => true
  | (key, o) :: later => key.isSome && o.isReadable && entriesReadable later

end

end Outline

end Census
