import Mathlib
import Census.Dictionary.Feed

/-!
The lines of a feed as they are read: each with its number and the header in force at it.
The entries of a feed are worked out from these lines one by one.
-/

namespace Census

/-- The header in force after some lines from the start of a feed. -/
def Header.after (layout : Layout) (lines : List FeedLine) : Header :=
  lines.foldl (Header.next layout) (.awaiting none none)

theorem Header.after_concat (layout : Layout) (lines : List FeedLine) (line : FeedLine) :
    Header.after layout (lines ++ [line]) = (Header.after layout lines).next layout line := by
  simp only [Header.after, List.foldl_append, List.foldl_cons, List.foldl_nil]

def Entry.attachment? : Entry → Option Attachment
  | attach a => some a
  | skip => none

/-- A line of a feed, its number, and the header in force when it is read. -/
structure ReadLine where
  number : Nat
  header : Header
  line : FeedLine
  deriving DecidableEq, Repr

def readLines (layout : Layout) (lines : List FeedLine) : List ReadLine :=
  lines.mapIdx fun i line => ⟨i + 1, .after layout (lines.take i), line⟩

namespace ReadLine

/-- The attachment that a category line inside a block asks for. -/
def attachment? (l : ReadLine) : Option Attachment :=
  match l.line, l.header with
  | .category code label, .block entityName variableName =>
    some ⟨l.number, entityName, variableName, ⟨code, label⟩⟩
  | _, _ => none

/-- A category line outside every block. -/
def isStray (l : ReadLine) : Bool :=
  match l.line, l.header with
  | .category _ _, .awaiting _ _ => true
  | _, _ => false

def isMalformed (l : ReadLine) : Bool :=
  l.line = .malformed

def result? (l : ReadLine) : Option Entry :=
  Header.entry? l.header l.number l.line

theorem attachment?_eq_some_iff {l : ReadLine} {a : Attachment} :
    l.attachment? = some a ↔
      l.number = a.line ∧ l.header = .block a.entityName a.variableName ∧
        l.line = .category a.category.code a.category.label := by
  rcases l with ⟨number, header, line⟩
  rcases a with ⟨n, entityName, variableName, code, label⟩
  cases line with
  | category c t => cases header <;> simp [attachment?]; grind
  | _ => simp [attachment?]

theorem attachment?_of_result? (l : ReadLine) :
    l.result?.bind Entry.attachment? = l.attachment? := by
  rcases l with ⟨number, header, line⟩
  cases line <;> cases header <;> rfl

theorem count_skip_result? (l : ReadLine) :
    l.result?.toList.count .skip =
      (if l.isStray then 1 else 0) + if l.isMalformed then 1 else 0 := by
  rcases l with ⟨number, header, line⟩
  cases line <;> cases header <;> rfl

end ReadLine

/-- The lines after `before` give the entries that each of them gives where it stands. -/
theorem entriesFrom_after (layout : Layout) (before lines : List FeedLine) :
    entriesFrom layout (.after layout before) (before.length + 1) lines =
      List.filterMap ReadLine.result?
        (lines.mapIdx fun i line =>
          ⟨before.length + i + 1, .after layout (before ++ lines.take i), line⟩) := by
  -- The lines already read move over to `before`, and the header in force with them.
  induction lines generalizing before with
  | nil => rfl
  | cons line later ih =>
    have hlater := ih (before ++ [line])
    simp only [Header.after_concat, List.length_append, List.length_cons, List.length_nil,
      List.append_assoc, List.singleton_append] at hlater
    have hnumber (i : Nat) : before.length + (i + 1) + 1 = before.length + (0 + 1) + i + 1 := by
      omega
    rw [entriesFrom, hlater, List.mapIdx_cons, List.filterMap_cons]
    simp only [List.take_succ_cons, List.take_zero, List.append_nil, Nat.add_zero, hnumber]
    cases h : Header.entry? (Header.after layout before) (before.length + 1) line <;>
      simp [ReadLine.result?, h]

theorem entriesFrom_append (layout : Layout) (h : Header) (n : ℕ) (lines lines' : List FeedLine) :
    entriesFrom layout h n (lines ++ lines') =
      entriesFrom layout h n lines ++
        entriesFrom layout (lines.foldl (Header.next layout) h) (n + lines.length) lines' := by
  induction lines generalizing h n with
  | nil => rfl
  | cons line lines ih =>
    have hn : n + 1 + lines.length = n + (lines.length + 1) := by omega
    rw [List.cons_append, entriesFrom, ih, entriesFrom, List.append_assoc, List.foldl_cons,
      List.length_cons, hn]

theorem feedEntries_eq_filterMap (layout : Layout) (text : String) :
    feedEntries layout text =
      (readLines layout (feedLines text)).filterMap ReadLine.result? := by
  have h := entriesFrom_after layout [] (feedLines text)
  simp only [List.length_nil, Nat.zero_add, List.nil_append] at h
  exact h

theorem mem_readLines_iff {layout : Layout} {lines : List FeedLine} {l : ReadLine} :
    l ∈ readLines layout lines ↔
      ∃ i, lines[i]? = some l.line ∧ l.number = i + 1 ∧
        l.header = .after layout (lines.take i) := by
  simp only [readLines, List.mem_mapIdx, List.getElem?_eq_some_iff]
  constructor
  · intro h
    obtain ⟨i, hi, rfl⟩ := h
    exact ⟨i, ⟨hi, rfl⟩, rfl, rfl⟩
  · intro h
    obtain ⟨i, ⟨hi, hline⟩, hnumber, hheader⟩ := h
    refine ⟨i, hi, ?_⟩
    rw [hline, ← hnumber, ← hheader]

theorem map_line_readLines (layout : Layout) (lines : List FeedLine) :
    (readLines layout lines).map ReadLine.line = lines := by
  apply List.ext_getElem
  · simp [readLines]
  · intro i hi hi'
    simp [readLines]

/-- The attachments that the category lines inside blocks ask for, in text order. -/
def inBlockLines (layout : Layout) (text : String) : List Attachment :=
  (readLines layout (feedLines text)).filterMap ReadLine.attachment?

/-- How many category lines stand outside every block. -/
def strayLines (layout : Layout) (text : String) : Nat :=
  (readLines layout (feedLines text)).countP ReadLine.isStray

theorem mem_inBlockLines_iff {layout : Layout} {text : String} {a : Attachment} :
    a ∈ inBlockLines layout text ↔
      ∃ i, (feedLines text)[i]? = some (.category a.category.code a.category.label) ∧
        a.line = i + 1 ∧
        Header.after layout ((feedLines text).take i) = .block a.entityName a.variableName := by
  rw [inBlockLines, List.mem_filterMap]
  constructor
  · intro h
    obtain ⟨l, hl, ha⟩ := h
    obtain ⟨hnumber, hheader, hline⟩ := ReadLine.attachment?_eq_some_iff.mp ha
    obtain ⟨i, hi, hi', hafter⟩ := mem_readLines_iff.mp hl
    exact ⟨i, hline ▸ hi, hnumber ▸ hi', hafter ▸ hheader⟩
  · intro h
    obtain ⟨i, hi, hline, hafter⟩ := h
    refine ⟨⟨a.line, .block a.entityName a.variableName,
      .category a.category.code a.category.label⟩, ?_, ?_⟩
    · exact mem_readLines_iff.mpr ⟨i, hi, hline, hafter.symm⟩
    · exact ReadLine.attachment?_eq_some_iff.mpr ⟨rfl, rfl, rfl⟩

theorem attachments_feedEntries (layout : Layout) (text : String) :
    (feedEntries layout text).filterMap Entry.attachment? = inBlockLines layout text := by
  simp only [feedEntries_eq_filterMap, List.filterMap_filterMap, inBlockLines,
    ReadLine.attachment?_of_result?]

theorem filterMap_attachment?_attach (attachments : List Attachment) :
    (attachments.map Entry.attach).filterMap Entry.attachment? = attachments := by
  rw [List.filterMap_map]
  exact List.filterMap_some

theorem count_skip_attach (attachments : List Attachment) :
    (attachments.map Entry.attach).count .skip = 0 := by
  rw [List.count_eq_zero]
  simp

theorem filterMap_attachment?_skip (n : ℕ) :
    (List.replicate n Entry.skip).filterMap Entry.attachment? = [] := by
  rw [List.filterMap_replicate_of_none]
  rfl

theorem attach_mem_feedEntries_iff {layout : Layout} {text : String} {a : Attachment} :
    .attach a ∈ feedEntries layout text ↔ a ∈ inBlockLines layout text := by
  rw [← attachments_feedEntries, List.mem_filterMap]
  constructor
  · intro h
    exact ⟨.attach a, h, rfl⟩
  · intro h
    obtain ⟨entry, hentry, ha⟩ := h
    cases entry with
    | attach b => exact Option.some.inj ha ▸ hentry
    | skip => cases ha

theorem count_skip_filterMap (ls : List ReadLine) :
    (ls.filterMap ReadLine.result?).count .skip =
      ls.countP ReadLine.isStray + ls.countP ReadLine.isMalformed := by
  induction ls with
  | nil => rfl
  | cons l ls ih =>
    have hl := l.count_skip_result?
    have hsplit : (l :: ls).filterMap ReadLine.result? =
        l.result?.toList ++ ls.filterMap ReadLine.result? := by
      cases h : l.result? <;> simp [h]
    rw [hsplit, List.count_append, hl, ih, List.countP_cons, List.countP_cons]
    omega

theorem count_skip_feedEntries (layout : Layout) (text : String) :
    (feedEntries layout text).count .skip =
      strayLines layout text + (feedLines text).count .malformed := by
  have hmalformed : (readLines layout (feedLines text)).countP ReadLine.isMalformed =
      (feedLines text).count .malformed := by
    conv_rhs => rw [← map_line_readLines layout (feedLines text), List.count, List.countP_map]
    apply List.countP_congr
    intro l _
    simp [ReadLine.isMalformed]
  rw [feedEntries_eq_filterMap, count_skip_filterMap, hmalformed, strayLines]

end Census
