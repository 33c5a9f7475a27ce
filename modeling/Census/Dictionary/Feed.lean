import Census.Dictionary.Basic
import Census.Dictionary.Layout
import Census.Dictionary.Error
import Census.Text.Blank
import Census.Text.Lines

/-!
The category feed: blocks of lines, each headed by fields that name a variable and its entity,
followed by one line `code.label` per category. What a feed attaches is worked out from the
text and the labels alone; the dictionary only has to hold the variables named.
-/

namespace Census

/-- The shape of a line of the feed. -/
inductive FeedLine where
  /-- A colon ahead of any point. -/
  | field (label value : String)
  /-- A point ahead of any colon, after something that is not blank. -/
  | category (code label : String)
  /-- A point ahead of any colon, after nothing but blanks. -/
  | malformed
  | other
  deriving DecidableEq, Repr

def trimmed (cs : List Char) : String :=
  String.ofList (Text.trimChars cs)

/-- The line cut at its first point. -/
def FeedLine.ofPoint (line : List Char) : FeedLine :=
  match Text.cut? '.' line with
  | none => .other
  | some (code, label) =>
    if trimmed code = "" then .malformed else .category (trimmed code) (trimmed label)

/-- The shape of a line, decided by whichever of colon and point comes first. -/
def FeedLine.classify (line : List Char) : FeedLine :=
  match Text.cut? ':' line with
  | none => .ofPoint line
  | some (label, value) =>
    if '.' ∈ label then .ofPoint line else .field (trimmed label) (trimmed value)

/-- What the fields read so far name. -/
inductive Header where
  /-- At most one half of the pair is known. -/
  | awaiting (entityName variableName : Option String)
  /-- Category lines belong to this variable. -/
  | block (entityName variableName : String)
  deriving DecidableEq, Repr

namespace Header

def pair : Option String → Option String → Header
  | some entityName, some variableName => block entityName variableName
  | entityName, variableName => awaiting entityName variableName

/-- A field inside a block opens a new header, so both names of the block are forgotten. -/
def withEntity (value : String) : Header → Header
  | awaiting _ variableName => pair (some value) variableName
  | block _ _ => awaiting (some value) none

def withVariable (value : String) : Header → Header
  | awaiting entityName _ => pair entityName (some value)
  | block _ _ => awaiting none (some value)

/-- The header after a line. A label that serves for both names a variable. -/
def next (layout : Layout) (h : Header) : FeedLine → Header
  | .field label value =>
    -- The label of a name is tried first.
    if label = layout.nameLabel then h.withVariable value
    else if label = layout.entityLabel then h.withEntity value
    else h
  | _ => h

end Header

/-- A category line inside a block, with its line number. -/
structure Attachment where
  line : Nat
  entityName : String
  variableName : String
  category : Category
  deriving DecidableEq, Repr

/-- What one line comes to. -/
inductive Entry where
  | attach (a : Attachment)
  /-- A category line outside a block, or one with a blank code. -/
  | skip
  deriving DecidableEq, Repr

def Header.entry? (h : Header) (n : Nat) : FeedLine → Option Entry
  | .category code label =>
    match h with
    | .block entityName variableName =>
      some (.attach ⟨n, entityName, variableName, ⟨code, label⟩⟩)
    | .awaiting _ _ => some .skip
  | .malformed => some .skip
  | _ => none

/-- The entries of the lines that follow header `h`, the first of them numbered `n`. -/
def entriesFrom (layout : Layout) (h : Header) (n : Nat) : List FeedLine → List Entry
  | [] => []
  | line :: later =>
    (h.entry? n line).toList ++ entriesFrom layout (h.next layout line) (n + 1) later

/-- The lines of a feed, classified. -/
def feedLines (text : String) : List FeedLine :=
  (Text.lines text.toList).map FeedLine.classify

def feedEntries (layout : Layout) (text : String) : List Entry :=
  entriesFrom layout (.awaiting none none) 1 (feedLines text)

/-- How many category lines were attached, and how many skipped. -/
structure Report where
  attached : Nat := 0
  skipped : Nat := 0
  deriving DecidableEq, Repr

/-- How far a feed has been attached. -/
structure Attaching where
  dictionary : Dictionary
  report : Report := {}
  /-- The variables that have received a line. -/
  touched : List (String × String) := []
  deriving DecidableEq, Repr

namespace Attaching

/-- Adds one category. In `replace` mode the first one for a variable clears its list. -/
def attach (mode : CategoryMode) (s : Attaching) (a : Attachment) :
    Except DictionaryError Attaching :=
  match s.dictionary.entity? a.entityName with
  | none => .error (.unknownEntity a.entityName a.line)
  | some e =>
    match e.lookup? a.variableName with
    | none => .error (.unknownVariable a.entityName a.variableName a.line)
    | some _ =>
      -- A line that fails is met before anything is cleared.
      let clears := mode = .replace ∧ (a.entityName, a.variableName) ∉ s.touched
      .ok {
        dictionary := s.dictionary.updateCategories a.entityName a.variableName fun old =>
          (if clears then [] else old) ++ [a.category]
        report := { s.report with attached := s.report.attached + 1 }
        touched := (a.entityName, a.variableName) :: s.touched }

def step (mode : CategoryMode) (s : Attaching) : Entry → Except DictionaryError Attaching
  | .attach a => s.attach mode a
  | .skip => .ok { s with report := { s.report with skipped := s.report.skipped + 1 } }

def run (mode : CategoryMode) (s : Attaching) (entries : List Entry) :
    Except DictionaryError Attaching :=
  entries.foldlM (step mode) s

end Attaching

/-- Attaches the categories that a feed lists. -/
def Dictionary.attach (layout : Layout) (d : Dictionary) (text : String) :
    Except DictionaryError (Dictionary × Report) :=
  (Attaching.run layout.categoryMode ⟨d, {}, []⟩ (feedEntries layout text)).map fun s =>
    (s.dictionary, s.report)

end Census
