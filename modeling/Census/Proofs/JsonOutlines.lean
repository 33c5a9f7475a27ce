import Mathlib
import Census.Proofs.PrettyReading

/-!
Outlines of written values. A value is known from its outline, and so from either of its texts.
-/

namespace Census.Json

theorem outlines_eq_map (items : List Json) : outlines items = items.map outline := by
  induction items with
  | nil => rfl
  | cons v later ih => rw [outlines, ih, List.map_cons]

theorem entryOutlines_eq_map (entries : List (String × Json)) :
    entryOutlines entries = entries.map fun e => (some e.1, e.2.outline) := by
  induction entries with
  | nil => rfl
  | cons e later ih => rw [entryOutlines, ih, List.map_cons]

/-- The first entries are the names together with the first values. -/
theorem entryOutlines_take (entries : List (String × Json)) (n : Nat) :
    entryOutlines (entries.take n) =
      ((entries.map Prod.fst).zip ((entries.take n).map fun e => e.2.outline)).map
        fun e => (some e.1, e.2) := by
  induction entries generalizing n with
  | nil => simp [entryOutlines]
  | cons e later ih =>
    cases n with
    | zero => rfl
    | succ n => simp [entryOutlines, ih]

theorem outline_texts (items : List String) : (texts items).outline = .list (items.map .text) := by
  rw [texts, outline, outlines_eq_map, List.map_map]
  rfl

theorem mem_entryOutlines {entries : List (String × Json)} {e : Option String × Outline}
    (h : e ∈ entryOutlines entries) : ∃ p ∈ entries, e = (some p.1, p.2.outline) := by
  rw [entryOutlines_eq_map] at h
  obtain ⟨p, hp, rfl⟩ := List.mem_map.mp h
  exact ⟨p, hp, rfl⟩

mutual

/-- Everything that is written has a value. -/
theorem isReadable_outline (v : Json) : v.outline.isReadable = true := by
  cases v with
  | null | bool b | text s => rfl
  | list items => exact allReadable_outlines items
  | record entries => exact entriesReadable_entryOutlines entries

theorem allReadable_outlines (items : List Json) :
    Outline.allReadable (outlines items) = true := by
  cases items with
  | nil => rfl
  | cons v later =>
    rw [outlines, Outline.allReadable, isReadable_outline v, allReadable_outlines later]
    rfl

theorem entriesReadable_entryOutlines (entries : List (String × Json)) :
    Outline.entriesReadable (entryOutlines entries) = true := by
  cases entries with
  | nil => rfl
  | cons e later =>
    obtain ⟨key, v⟩ := e
    rw [entryOutlines, Outline.entriesReadable, isReadable_outline v,
      entriesReadable_entryOutlines later]
    rfl

end

mutual

/-- No two values have one outline. -/
theorem eq_of_outline_eq {v w : Json} (h : v.outline = w.outline) : v = w := by
  match v, w, h with
  | .null, .null, _ => rfl
  | .bool b, .bool c, h => rw [Outline.bool.inj h]
  | .text s, .text t, h => rw [Outline.text.inj h]
  | .list items, .list items', h => rw [eq_of_outlines_eq (Outline.list.inj h)]
  | .record entries, .record entries', h => rw [eq_of_entryOutlines_eq (Outline.record.inj h)]

theorem eq_of_outlines_eq {items items' : List Json} (h : outlines items = outlines items') :
    items = items' := by
  match items, items', h with
  | [], [], _ => rfl
  | v :: later, w :: later', h =>
    obtain ⟨hv, hlater⟩ := List.cons.inj h
    rw [eq_of_outline_eq hv, eq_of_outlines_eq hlater]

theorem eq_of_entryOutlines_eq {entries entries' : List (String × Json)}
    (h : entryOutlines entries = entryOutlines entries') : entries = entries' := by
  match entries, entries', h with
  | [], [], _ => rfl
  | (key, v) :: later, (key', w) :: later', h =>
    obtain ⟨he, hlater⟩ := List.cons.inj h
    obtain ⟨hkey, hv⟩ := Prod.mk.inj he
    rw [Option.some.inj hkey, eq_of_outline_eq hv, eq_of_entryOutlines_eq hlater]

end

section Texts

variable {v w : Json} (hv : depth v ≤ maxDepth) (hw : depth w ≤ maxDepth)

include hv hw

theorem compact_eq_compact_iff : v.compact = w.compact ↔ v = w := by
  constructor
  · intro h
    have hread : read v.compact = read w.compact := congrArg read h
    rw [read_compact hv, read_compact hw] at hread
    exact eq_of_outline_eq (congrArg Reading.outline hread)
  · exact congrArg compact

theorem pretty_eq_pretty_iff : v.pretty = w.pretty ↔ v = w := by
  constructor
  · intro h
    have hread : read v.pretty = read w.pretty := congrArg read h
    rw [read_pretty hv, read_pretty hw] at hread
    exact eq_of_outline_eq (congrArg Reading.outline hread)
  · exact congrArg pretty

end Texts

theorem depthItems_map_le {α : Type} {write : α → Json} {n : Nat} (h : ∀ a, depth (write a) ≤ n)
    (as : List α) : depthItems (as.map write) ≤ n := by
  induction as with
  | nil => exact Nat.zero_le n
  | cons a as ih =>
    rw [List.map_cons, depthItems]
    exact max_le (h a) ih

theorem depthEntries_map_le {α : Type} {write : α → String × Json} {n : Nat}
    (h : ∀ a, depth (write a).2 ≤ n) (as : List α) : depthEntries (as.map write) ≤ n := by
  induction as with
  | nil => exact Nat.zero_le n
  | cons a as ih =>
    rw [List.map_cons, depthEntries]
    exact max_le (h a) ih

theorem depth_texts_le (items : List String) : depth (texts items) ≤ 1 := by
  rw [texts, depth]
  exact Nat.succ_le_succ (depthItems_map_le (fun _ => Nat.le_refl 0) items)

end Census.Json
