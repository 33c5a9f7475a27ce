import Mathlib
import Census.Proofs.FeedEffect

/-!
Two feeds that have the same lines at different places, and between them lines that say nothing.
Their entries are the same up to line numbers, so attaching them comes to the same, up to the line
number of an error.
-/

namespace Census

variable {moves : ℕ → ℕ → Prop} {layout : Layout}

/-- The same attachment, its line at another place. -/
structure Attachment.Moved (moves : ℕ → ℕ → Prop) (a a' : Attachment) : Prop where
  line : moves a.line a'.line
  entityName : a'.entityName = a.entityName
  variableName : a'.variableName = a.variableName
  category : a'.category = a.category

inductive Entry.Moved (moves : ℕ → ℕ → Prop) : Entry → Entry → Prop
  | attach {a a' : Attachment} (h : a.Moved moves a') : Moved moves (.attach a) (.attach a')
  | skip : Moved moves .skip .skip

/-- The same error of a feed, the line it names at another place. -/
inductive DictionaryError.Moved (moves : ℕ → ℕ → Prop) : DictionaryError → DictionaryError → Prop
  | unknownEntity (entityName : String) {n n' : ℕ} (h : moves n n') :
    Moved moves (.unknownEntity entityName n) (.unknownEntity entityName n')
  | unknownVariable (entityName variableName : String) {n n' : ℕ} (h : moves n n') :
    Moved moves (.unknownVariable entityName variableName n)
      (.unknownVariable entityName variableName n')

/-- The same result, or the same error up to the number of its line. -/
inductive SameOutcome (moves : ℕ → ℕ → Prop) {α : Type} :
    Except DictionaryError α → Except DictionaryError α → Prop
  | ok (a : α) : SameOutcome moves (.ok a) (.ok a)
  | error {err err' : DictionaryError} (h : err.Moved moves err') :
    SameOutcome moves (.error err) (.error err')

/-- A line that neither names anything nor lists a category. -/
def FeedLine.IsIdle (layout : Layout) : FeedLine → Prop
  | .field label _ => label ≠ layout.nameLabel ∧ label ≠ layout.entityLabel
  | .other => True
  | _ => False

/-- The lines from number `n` on in one feed and from `n'` on in the other are the same but for
idle ones, and `moves` relates the numbers of those that both have. -/
inductive Aligned (layout : Layout) (moves : ℕ → ℕ → Prop) :
    ℕ → ℕ → List FeedLine → List FeedLine → Prop
  | nil (n n' : ℕ) : Aligned layout moves n n' [] []
  | both {n n' : ℕ} {ls ls' : List FeedLine} (line : FeedLine) (h : moves n n')
    (later : Aligned layout moves (n + 1) (n' + 1) ls ls') :
    Aligned layout moves n n' (line :: ls) (line :: ls')
  | left {n n' : ℕ} {ls ls' : List FeedLine} {line : FeedLine} (h : line.IsIdle layout)
    (later : Aligned layout moves (n + 1) n' ls ls') :
    Aligned layout moves n n' (line :: ls) ls'
  | right {n n' : ℕ} {ls ls' : List FeedLine} {line : FeedLine} (h : line.IsIdle layout)
    (later : Aligned layout moves n (n' + 1) ls ls') :
    Aligned layout moves n n' ls (line :: ls')

theorem FeedLine.IsIdle.next {line : FeedLine} (hline : line.IsIdle layout) (h : Header) :
    h.next layout line = h := by
  cases line with
  | field label value => rw [Header.next, if_neg hline.1, if_neg hline.2]
  | other => rfl
  | category code label => exact hline.elim
  | malformed => exact hline.elim

theorem FeedLine.IsIdle.entry? {line : FeedLine} (hline : line.IsIdle layout) (h : Header) (n : ℕ) :
    h.entry? n line = none := by
  cases line with
  | field label value => rfl
  | other => rfl
  | category code label => exact hline.elim
  | malformed => exact hline.elim

theorem FeedLine.IsIdle.entriesFrom_cons {line : FeedLine} (hline : line.IsIdle layout) (h : Header)
    (n : ℕ) (later : List FeedLine) :
    entriesFrom layout h n (line :: later) = entriesFrom layout h (n + 1) later := by
  rw [entriesFrom, hline.entry? h n, hline.next h]
  rfl

/-- A line gives the same entry at another place. -/
theorem Header.entry?_of_moves {n n' : ℕ} (hmoves : moves n n') (h : Header) (line : FeedLine) :
    List.Forall₂ (Entry.Moved moves) (h.entry? n line).toList (h.entry? n' line).toList := by
  cases line with
  | field label value => exact .nil
  | other => exact .nil
  | malformed => exact .cons .skip .nil
  | category code label =>
    cases h with
    | awaiting entityName variableName => exact .cons .skip .nil
    | block entityName variableName => exact .cons (.attach ⟨hmoves, rfl, rfl, rfl⟩) .nil

theorem Aligned.entriesFrom {n n' : ℕ} {ls ls' : List FeedLine}
    (haligned : Aligned layout moves n n' ls ls') (h : Header) :
    List.Forall₂ (Entry.Moved moves) (entriesFrom layout h n ls) (entriesFrom layout h n' ls') := by
  induction haligned generalizing h with
  | nil n n' => exact .nil
  | both line hmoves later ih =>
    exact List.rel_append (Header.entry?_of_moves hmoves h line) (ih (h.next layout line))
  | left hline later ih =>
    rw [hline.entriesFrom_cons]
    exact ih h
  | right hline later ih =>
    rw [hline.entriesFrom_cons]
    exact ih h

/-- The same lines with other lines in front of them. -/
theorem aligned_shifted (layout : Layout) (k n : ℕ) (ls : List FeedLine) :
    Aligned layout (fun n n' => n' = n + k) n (n + k) ls ls := by
  induction ls generalizing n with
  | nil => exact .nil n (n + k)
  | cons line later ih =>
    have hlater := ih (n + 1)
    rw [Nat.add_right_comm] at hlater
    exact .both line rfl hlater

namespace SameOutcome

variable {α β : Type}

theorem map {x x' : Except DictionaryError α} (h : SameOutcome moves x x') (f : α → β) :
    SameOutcome moves (x.map f) (x'.map f) := by
  cases h with
  | ok a => exact .ok (f a)
  | error herr => exact .error herr

theorem bind {x x' : Except DictionaryError α} (h : SameOutcome moves x x')
    {f f' : α → Except DictionaryError β} (hf : ∀ a, SameOutcome moves (f a) (f' a)) :
    SameOutcome moves (x.bind f) (x'.bind f') := by
  cases h with
  | ok a => exact hf a
  | error herr => exact .error herr

end SameOutcome

namespace Attaching

theorem attach_of_moved {a a' : Attachment} (h : a.Moved moves a') (mode : CategoryMode)
    (s : Attaching) : SameOutcome moves (s.attach mode a) (s.attach mode a') := by
  obtain ⟨n', entityName, variableName, category⟩ := a'
  obtain ⟨hline, rfl, rfl, rfl⟩ := h
  rw [attach, attach]
  cases s.dictionary.entity? a.entityName with
  | none => exact .error (.unknownEntity _ hline)
  | some e =>
    dsimp only
    cases e.lookup? a.variableName with
    | none => exact .error (.unknownVariable _ _ hline)
    | some v => exact .ok _

theorem step_of_moved {entry entry' : Entry} (h : entry.Moved moves entry') (mode : CategoryMode)
    (s : Attaching) : SameOutcome moves (s.step mode entry) (s.step mode entry') := by
  cases h with
  | attach ha => exact attach_of_moved ha mode s
  | skip => exact .ok _

theorem run_of_moved {entries entries' : List Entry}
    (h : List.Forall₂ (Entry.Moved moves) entries entries') (mode : CategoryMode) (s : Attaching) :
    SameOutcome moves (s.run mode entries) (s.run mode entries') := by
  induction h generalizing s with
  | nil => exact .ok s
  | cons hentry _ ih =>
    rw [run_cons, run_cons]
    exact (step_of_moved hentry mode s).bind ih

end Attaching

/-- A feed matters through its entries alone. -/
theorem Dictionary.attach_congr {text text' : String}
    (h : feedEntries layout text' = feedEntries layout text) (d : Dictionary) :
    d.attach layout text' = d.attach layout text := by
  rw [attach, attach, h]

/-- Feeds whose entries are the same up to line numbers come to the same. No dictionary is excluded:
a name that it has twice is looked up in one way for both. -/
theorem Dictionary.attach_of_moved {text text' : String}
    (h : List.Forall₂ (Entry.Moved moves) (feedEntries layout text) (feedEntries layout text'))
    (d : Dictionary) :
    SameOutcome moves (d.attach layout text) (d.attach layout text') :=
  (Attaching.run_of_moved h layout.categoryMode ⟨d, {}, []⟩).map fun s => (s.dictionary, s.report)

end Census
