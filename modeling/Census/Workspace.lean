import Census.Dictionary.Form
import Census.Dictionary.Row
import Census.Dictionary.Feed

/-!
A workspace: a layout, the dictionary at hand, and dictionaries saved under names. A command
that fails leaves the workspace as it was.
-/

namespace Census

structure Workspace where
  layout : Layout := {}
  dictionary : Dictionary := {}
  saved : List (String × Dictionary) := []
  deriving DecidableEq, Repr

namespace Workspace

inductive Command where
  | setLayout (layout : Layout)
  | declare (rows : List Row)
  | attach (text : String)
  | entity (name : String)
  | lookup (entity name : String)
  | categories (entity name : String)
  | summary
  | dump
  | form (request : CategoryRequest)
  | save (slot : String)
  | load (slot : String)
  | compare (slot : String)

inductive Answer where
  | layout (layout : Layout)
  | declared (d : Dictionary)
  | attached (report : Report) (d : Dictionary)
  | entity (e : Option Entity)
  | found (v : Option Variable)
  | categories (cs : Option (List Category))
  | summary (d : Dictionary)
  | entities (es : List Entity)
  | fields (fs : List (String × String))
  | saved (size : Nat)
  | loaded (size : Nat)
  | equal (same : Bool)
  | failed (e : DictionaryError)
  | noSlot

def slot? (w : Workspace) (slot : String) : Option Dictionary :=
  w.saved.lookup slot

def perform (w : Workspace) : Command → Workspace × Answer
  | .setLayout layout => ({ w with layout }, .layout layout)
  | .declare rows =>
    match Dictionary.ofRows w.layout rows with
    | .ok d => ({ w with dictionary := d }, .declared d)
    | .error e => (w, .failed e)
  | .attach text =>
    match w.dictionary.attach w.layout text with
    | .ok (d, report) => ({ w with dictionary := d }, .attached report d)
    | .error e => (w, .failed e)
  | .entity name => (w, .entity (w.dictionary.entity? name))
  | .lookup entity name => (w, .found (w.dictionary.lookup? entity name))
  | .categories entity name => (w, .categories (w.dictionary.categories? entity name))
  | .summary => (w, .summary w.dictionary)
  | .dump => (w, .entities w.dictionary.entities)
  | .form request => (w, .fields (request.fields w.dictionary.queryable))
  | .save slot =>
    ({ w with saved := (slot, w.dictionary) :: w.saved }, .saved w.dictionary.size)
  | .load slot =>
    match w.slot? slot with
    | some d => ({ w with dictionary := d }, .loaded d.size)
    | none => (w, .noSlot)
  | .compare slot =>
    match w.slot? slot with
    | some d => (w, .equal (w.dictionary = d))
    | none => (w, .noSlot)

/-- The answers to commands given one after another. -/
def run (w : Workspace) : List Command → List Answer
  | [] => []
  | c :: later =>
    let (w, answer) := w.perform c
    answer :: w.run later

end Workspace

end Census
