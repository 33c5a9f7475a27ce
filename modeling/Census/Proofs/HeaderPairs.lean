import Mathlib
import Census.Proofs.ReadLines

/-!
Which names a category line belongs to. The header in force depends on the header fields read
so far through their longest alternating suffix alone, and a block is the pair of the last two.
-/

namespace Census

/-- A field line that carries one of the two labels of a layout. -/
inductive HeaderField where
  | name (value : String)
  | entity (value : String)
  deriving DecidableEq, Repr

def HeaderField.isEntity : HeaderField → Bool
  | name _ => false
  | entity _ => true

/-- The header field that a line is. The label of a name is tried first. -/
def Layout.headerField? (layout : Layout) : FeedLine → Option HeaderField
  | .field label value =>
    if label = layout.nameLabel then some (.name value)
    else if label = layout.entityLabel then some (.entity value)
    else none
  | _ => none

def headerFields (layout : Layout) (lines : List FeedLine) : List HeaderField :=
  lines.filterMap layout.headerField?

/-- Names and entities take turns. -/
def Alternates (fields : List HeaderField) : Prop :=
  fields.IsChain fun f g => f.isEntity ≠ g.isEntity

structure IsLongestAlternating (run fields : List HeaderField) : Prop where
  suffix : run <:+ fields
  alternates : Alternates run
  longest : ∀ other, other <:+ fields → Alternates other → other.length ≤ run.length

/-- The last two fields name this entity and this variable, in either order. -/
def EndsWithPair (fields : List HeaderField) (entityName variableName : String) : Prop :=
  ∃ earlier, fields = earlier ++ [.name variableName, .entity entityName] ∨
    fields = earlier ++ [.entity entityName, .name variableName]

theorem alternates_concat_iff {fields : List HeaderField} {f : HeaderField} :
    Alternates (fields ++ [f]) ↔
      Alternates fields ∧ ∀ g ∈ fields.getLast?, g.isEntity ≠ f.isEntity := by
  simp [Alternates, List.isChain_append]

theorem longest_alternating_nil : IsLongestAlternating [] [] where
  suffix := List.suffix_refl _
  alternates := List.isChain_nil
  longest := by
    intro other ho _
    simp [List.suffix_nil.mp ho]

theorem longest_alternating_turn {run fields : List HeaderField} {f : HeaderField}
    (h : IsLongestAlternating run fields)
    (hturn : ∀ g ∈ run.getLast?, g.isEntity ≠ f.isEntity) :
    IsLongestAlternating (run ++ [f]) (fields ++ [f]) where
  suffix := by
    obtain ⟨earlier, rfl⟩ := h.suffix
    exact ⟨earlier, by simp⟩
  alternates := alternates_concat_iff.mpr ⟨h.alternates, hturn⟩
  longest := by
    intro other ho ha
    rcases List.suffix_concat_iff.mp ho with rfl | ⟨shorter, rfl, hs⟩
    · simp
    · have hle := h.longest shorter hs (alternates_concat_iff.mp ha).1
      simpa using hle

theorem getLast?_of_suffix {fields shorter : List HeaderField} {f : HeaderField}
    (h : shorter <:+ fields) (hf : shorter.getLast? = some f) : fields.getLast? = some f := by
  obtain ⟨earlier, rfl⟩ := h
  simp [List.getLast?_append, hf]

theorem longest_alternating_repeat {run fields : List HeaderField} {f g : HeaderField}
    (h : IsLongestAlternating run fields) (hg : run.getLast? = some g)
    (hsame : g.isEntity = f.isEntity) : IsLongestAlternating [f] (fields ++ [f]) where
  suffix := List.suffix_append _ _
  alternates := List.isChain_singleton _
  longest := by
    intro other ho ha
    rcases List.suffix_concat_iff.mp ho with rfl | ⟨shorter, rfl, hs⟩
    · simp
    · have hlast := (alternates_concat_iff.mp ha).2
      cases hx : shorter.getLast? with
      | none => simp [List.getLast?_eq_none_iff.mp hx]
      | some x =>
        have hxg : some x = some g :=
          (getLast?_of_suffix hs hx).symm.trans (getLast?_of_suffix h.suffix hg)
        obtain rfl := Option.some.inj hxg
        exact absurd hsame (hlast x hx)

namespace Header

/-- The header after one more header field. -/
def read (h : Header) : HeaderField → Header
  | .name value => h.withVariable value
  | .entity value => h.withEntity value

theorem next_eq_read (layout : Layout) (h : Header) (line : FeedLine) :
    h.next layout line = (layout.headerField? line).elim h h.read := by
  cases line with
  | field label value =>
    simp only [next, Layout.headerField?]
    split_ifs <;> rfl
  | _ => rfl

/-- Only the header fields among the lines matter. -/
theorem after_eq_foldl_read (layout : Layout) (lines : List FeedLine) :
    after layout lines = (headerFields layout lines).foldl read (.awaiting none none) := by
  induction lines using List.reverseRecOn with
  | nil => rfl
  | append_singleton lines line ih =>
    rw [after_concat, next_eq_read, ih, headerFields, headerFields, List.filterMap_append,
      List.foldl_append]
    cases h : layout.headerField? line <;> simp [h]

/-- A new header of which one field has been read. -/
def ofField : HeaderField → Header
  | .name value => .awaiting none (some value)
  | .entity value => .awaiting (some value) none

/-- What an alternating run of header fields leaves: nothing, the last field alone when their
number is odd, or a block made of the last two. -/
inductive Leaves : List HeaderField → Header → Prop
  | nothing : Leaves [] (.awaiting none none)
  | half (run : List HeaderField) (f : HeaderField) (heven : Even run.length) :
    Leaves (run ++ [f]) (ofField f)
  | name_entity (run : List HeaderField) (variableName entityName : String)
    (heven : Even run.length) :
    Leaves (run ++ [.name variableName, .entity entityName]) (.block entityName variableName)
  | entity_name (run : List HeaderField) (entityName variableName : String)
    (heven : Even run.length) :
    Leaves (run ++ [.entity entityName, .name variableName]) (.block entityName variableName)

theorem read_block (entityName variableName : String) (f : HeaderField) :
    (block entityName variableName).read f = ofField f := by
  cases f <;> rfl

theorem read_ofField_of_repeat {f g : HeaderField} (h : g.isEntity = f.isEntity) :
    (ofField g).read f = ofField f := by
  cases g <;> cases f <;> first | rfl | simp [HeaderField.isEntity] at h

theorem Leaves.turn {run : List HeaderField} {h : Header} {f : HeaderField} (hl : Leaves run h)
    (hturn : ∀ g ∈ run.getLast?, g.isEntity ≠ f.isEntity) : Leaves (run ++ [f]) (h.read f) := by
  have heven_two (run : List HeaderField) (g g' : HeaderField) (h : Even run.length) :
      Even (run ++ [g, g']).length := by
    rw [List.length_append]
    exact h.add even_two
  -- After an odd number of fields a turn completes a pair; after an even one it opens a header.
  cases hl with
  | nothing => cases f <;> exact .half [] _ Even.zero
  | half run g heven =>
    have hgf : g.isEntity ≠ f.isEntity := hturn g (by simp)
    rw [List.append_assoc]
    cases g with
    | name v =>
      cases f with
      | name v' => exact absurd rfl hgf
      | entity e => exact .name_entity run v e heven
    | entity e =>
      cases f with
      | name v => exact .entity_name run e v heven
      | entity e' => exact absurd rfl hgf
  | name_entity run v e heven =>
    rw [read_block]
    exact .half _ f (heven_two run _ _ heven)
  | entity_name run e v heven =>
    rw [read_block]
    exact .half _ f (heven_two run _ _ heven)

theorem Leaves.repeat {run : List HeaderField} {h : Header} {f g : HeaderField} (hl : Leaves run h)
    (hg : run.getLast? = some g) (hsame : g.isEntity = f.isEntity) : Leaves [f] (h.read f) := by
  have hread : h.read f = ofField f := by
    cases hl with
    | nothing => simp at hg
    | half run g' heven =>
      obtain rfl : g' = g := by simpa using hg
      exact read_ofField_of_repeat hsame
    | name_entity | entity_name => exact read_block _ _ f
  rw [hread]
  exact .half [] f Even.zero

theorem ofField_ne_block (f : HeaderField) (entityName variableName : String) :
    ofField f ≠ block entityName variableName := by
  cases f <;> simp [ofField]

theorem Leaves.block_iff_even {run : List HeaderField} {h : Header} (hl : Leaves run h) :
    (∃ entityName variableName, h = block entityName variableName) ↔
      run ≠ [] ∧ Even run.length := by
  cases hl with
  | nothing => simp
  | half run f heven =>
    have hodd : Odd (run.length + 1) := heven.add_one
    simpa [ofField_ne_block] using hodd
  | name_entity run v e heven => simp [Nat.even_add, heven]
  | entity_name run e v heven => simp [Nat.even_add, heven]

theorem Leaves.ends_with_pair {run : List HeaderField} {entityName variableName : String}
    (hl : Leaves run (block entityName variableName)) :
    EndsWithPair run entityName variableName := by
  generalize hh : block entityName variableName = h at hl
  cases hl with
  | nothing => cases hh
  | half run f heven => exact absurd hh.symm (ofField_ne_block f _ _)
  | name_entity run v e heven =>
    cases hh
    exact ⟨run, Or.inl rfl⟩
  | entity_name run e v heven =>
    cases hh
    exact ⟨run, Or.inr rfl⟩

/-- The invariant of reading header fields: what is left is what the longest alternating
suffix leaves. -/
theorem exists_longest_alternating (fields : List HeaderField) :
    ∃ run, IsLongestAlternating run fields ∧
      Leaves run (fields.foldl read (.awaiting none none)) := by
  -- Induction on the fields read, with the newest one at the end.
  induction fields using List.reverseRecOn with
  | nil => exact ⟨[], longest_alternating_nil, .nothing⟩
  | append_singleton fields f ih =>
    obtain ⟨run, hrun, hleft⟩ := ih
    rw [List.foldl_append, List.foldl_cons, List.foldl_nil]
    by_cases hturn : ∀ g ∈ run.getLast?, g.isEntity ≠ f.isEntity
    · exact ⟨run ++ [f], longest_alternating_turn hrun hturn, hleft.turn hturn⟩
    · push Not at hturn
      obtain ⟨g, hg, hsame⟩ := hturn
      exact ⟨[f], longest_alternating_repeat hrun hg hsame, hleft.repeat hg hsame⟩

theorem exists_leaves_after (layout : Layout) (lines : List FeedLine) :
    ∃ run, IsLongestAlternating run (headerFields layout lines) ∧
      Leaves run (after layout lines) := by
  rw [after_eq_foldl_read]
  exact exists_longest_alternating (headerFields layout lines)

end Header

theorem EndsWithPair.of_suffix {run fields : List HeaderField} {entityName variableName : String}
    (h : run <:+ fields) (hp : EndsWithPair run entityName variableName) :
    EndsWithPair fields entityName variableName := by
  obtain ⟨before, rfl⟩ := h
  obtain ⟨earlier, rfl | rfl⟩ := hp
  · exact ⟨before ++ earlier, Or.inl (by simp)⟩
  · exact ⟨before ++ earlier, Or.inr (by simp)⟩

theorem Header.ends_with_pair_of_after {layout : Layout} {lines : List FeedLine}
    {entityName variableName : String} (h : after layout lines = .block entityName variableName) :
    EndsWithPair (headerFields layout lines) entityName variableName := by
  obtain ⟨run, hrun, hleft⟩ := exists_leaves_after layout lines
  rw [h] at hleft
  exact hleft.ends_with_pair.of_suffix hrun.suffix

/-- In front of every line, the header is a block exactly when the longest alternating suffix
of the header fields read so far is not empty and of even length, and then it holds the names
that the last two fields give; so a category line is attached to those names only. -/
theorem header_is_last_pair (layout : Layout) (text : String) (n : ℕ) :
    ∃ run, IsLongestAlternating run (headerFields layout ((feedLines text).take n)) ∧
      ((∃ entityName variableName,
          Header.after layout ((feedLines text).take n) = .block entityName variableName) ↔
        run ≠ [] ∧ Even run.length) ∧
      (∀ entityName variableName,
        Header.after layout ((feedLines text).take n) = .block entityName variableName →
          EndsWithPair run entityName variableName) ∧
      (∀ a, Entry.attach a ∈ feedEntries layout text → a.line = n + 1 →
        EndsWithPair (headerFields layout ((feedLines text).take n))
          a.entityName a.variableName) := by
  obtain ⟨run, hrun, hleft⟩ :=
    Header.exists_longest_alternating (headerFields layout ((feedLines text).take n))
  rw [← Header.after_eq_foldl_read] at hleft
  refine ⟨run, hrun, hleft.block_iff_even, fun e v he => (he ▸ hleft).ends_with_pair, ?_⟩
  intro a ha hline
  obtain ⟨i, -, hi, hafter⟩ := mem_inBlockLines_iff.mp (attach_mem_feedEntries_iff.mp ha)
  obtain rfl : i = n := by omega
  rw [hafter] at hleft
  exact hleft.ends_with_pair.of_suffix hrun.suffix

end Census
