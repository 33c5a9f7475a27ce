import Mathlib
import Census.Dictionary.Row

/-!
The maximal runs of rows with one entity code into which a metadata table falls, and how the
runs change when a row is added at its end.
-/

namespace Census

/-- Rows that follow one another with one entity code. -/
structure Run where
  first : Row
  later : List Row
  same : ∀ r ∈ later, r.entityCode = first.entityCode

namespace Run

def rows (run : Run) : List Row :=
  run.first :: run.later

def code (run : Run) : String :=
  run.first.entityCode

/-- The name that the first row gives; the others are not asked. -/
def name (run : Run) : String :=
  Text.trim run.first.entityName

/-- The variables that the rows after the first declare. -/
def vars (run : Run) : List Variable :=
  (run.later.filter fun r => Text.trim r.variableName ≠ "").map fun r =>
    ⟨Text.trim r.variableName, Text.trim r.typeTag, []⟩

/-- One of the variables is a geographic code. -/
def IsGeographic (run : Run) (layout : Layout) : Prop :=
  ∃ v ∈ run.vars, v.typeTag = layout.geoTypeTag

instance (run : Run) (layout : Layout) : Decidable (run.IsGeographic layout) :=
  inferInstanceAs (Decidable (∃ v ∈ run.vars, v.typeTag = layout.geoTypeTag))

def single (r : Row) : Run where
  first := r
  later := []
  same := by simp

def extend (run : Run) (r : Row) (h : r.entityCode = run.code) : Run where
  first := run.first
  later := run.later ++ [r]
  same := by
    intro q hq
    rcases List.mem_append.mp hq with hq | hq
    · exact run.same q hq
    · exact List.mem_singleton.mp hq ▸ h

theorem entityCode_of_mem_rows {run : Run} {r : Row} (h : r ∈ run.rows) :
    r.entityCode = run.code := by
  rcases List.mem_cons.mp h with rfl | h
  · rfl
  · exact run.same r h

theorem rows_ne_nil (run : Run) : run.rows ≠ [] :=
  List.cons_ne_nil _ _

/-- A row put in front of runs joins the first of them if it has its code. -/
def consRow (r : Row) : List Run → List Run
  | [] => [single r]
  | run :: more =>
    if h : r.entityCode = run.code then
      ⟨r, run.rows, fun _ hq => (entityCode_of_mem_rows hq).trans h.symm⟩ :: more
    else single r :: run :: more

end Run

/-- The maximal runs of a table, in order. -/
def runs (rows : List Row) : List Run :=
  rows.foldr Run.consRow []

namespace Run

theorem rows_injective : Function.Injective Run.rows := by
  intro a b h
  rcases a with ⟨r, later, _⟩
  rcases b with ⟨r', later', _⟩
  obtain ⟨rfl, rfl⟩ := List.cons.inj h
  rfl

theorem flatMap_consRow (r : Row) (rs : List Run) :
    (consRow r rs).flatMap rows = r :: rs.flatMap rows := by
  cases rs with
  | nil => rfl
  | cons run more =>
    rw [consRow]
    split_ifs <;> simp [rows, single]

theorem isChain_consRow (r : Row) {rs : List Run} (h : rs.IsChain fun a b => a.code ≠ b.code) :
    (consRow r rs).IsChain fun a b => a.code ≠ b.code := by
  cases rs with
  | nil => exact List.isChain_singleton _
  | cons run more =>
    rw [consRow]
    split_ifs with hcode
    · rw [List.isChain_cons] at h ⊢
      refine ⟨fun next hnext => ?_, h.2⟩
      have hne : run.code ≠ next.code := h.1 next hnext
      exact fun he => hne (hcode.symm.trans he)
    · exact List.isChain_cons_cons.mpr ⟨hcode, h⟩

end Run

theorem flatMap_rows_runs (rows : List Row) : (runs rows).flatMap Run.rows = rows := by
  induction rows with
  | nil => rfl
  | cons r rows ih => rw [runs, List.foldr_cons, Run.flatMap_consRow, ← runs, ih]

/-- Neighbouring runs differ in their codes, so none can be prolonged. -/
theorem isChain_runs (rows : List Row) : (runs rows).IsChain fun a b => a.code ≠ b.code := by
  induction rows with
  | nil => exact List.isChain_nil
  | cons r rows ih => exact Run.isChain_consRow r ih

/-- Runs whose neighbours differ in code are the groups of adjacent rows with equal codes. -/
theorem splitBy_flatMap_rows {rs : List Run} (h : rs.IsChain fun a b => a.code ≠ b.code) :
    (rs.flatMap Run.rows).splitBy (fun a b => a.entityCode == b.entityCode) = rs.map Run.rows := by
  rw [List.flatMap_def]
  apply List.splitBy_flatten
  · simp [Run.rows]
  · intro rows hrows
    obtain ⟨run, -, rfl⟩ := List.mem_map.mp hrows
    apply List.Pairwise.isChain
    apply List.pairwise_of_forall_mem_list
    intro a ha b hb
    simp [Run.entityCode_of_mem_rows ha, Run.entityCode_of_mem_rows hb]
  · rw [List.isChain_map]
    apply h.imp
    intro a b hab
    refine ⟨a.rows_ne_nil, b.rows_ne_nil, ?_⟩
    have hlast := Run.entityCode_of_mem_rows (List.getLast_mem a.rows_ne_nil)
    have hhead := Run.entityCode_of_mem_rows (List.head_mem b.rows_ne_nil)
    rw [beq_eq_false_iff_ne]
    exact fun he => hab (hlast.symm.trans (he.trans hhead))

/-- A table has one division into runs whose neighbours differ in code. -/
theorem runs_eq_of_isChain {rs : List Run} (h : rs.IsChain fun a b => a.code ≠ b.code) :
    runs (rs.flatMap Run.rows) = rs := by
  -- Both divisions are the groups of adjacent rows with equal codes of one table.
  apply List.map_injective_iff.mpr Run.rows_injective
  have hruns := splitBy_flatMap_rows (isChain_runs (rs.flatMap Run.rows))
  rw [flatMap_rows_runs] at hruns
  rw [← hruns, splitBy_flatMap_rows h]

theorem runs_eq_nil_iff {rows : List Row} : runs rows = [] ↔ rows = [] := by
  constructor
  · intro h
    simpa [h] using (flatMap_rows_runs rows).symm
  · intro h
    rw [h]
    rfl

theorem code_getLast?_runs (rows : List Row) :
    (runs rows).getLast?.map Run.code = rows.getLast?.map Row.entityCode := by
  cases h : (runs rows).getLast? with
  | none => simp [runs_eq_nil_iff.mp (List.getLast?_eq_none_iff.mp h)]
  | some last =>
    have hrows : rows = (runs rows).dropLast.flatMap Run.rows ++ last.rows := by
      conv_lhs => rw [← flatMap_rows_runs rows, ← List.dropLast_append_getLast? last h]
      simp
    have hlast : rows.getLast? = last.rows.getLast? := by
      rw [hrows, List.getLast?_append_of_ne_nil _ last.rows_ne_nil]
    rw [hlast, List.getLast?_eq_some_getLast last.rows_ne_nil]
    simp [Run.entityCode_of_mem_rows (List.getLast_mem last.rows_ne_nil)]

theorem code_head?_runs (rows : List Row) :
    (runs rows).head?.map Run.code = rows.head?.map Row.entityCode := by
  cases h : runs rows with
  | nil => simp [runs_eq_nil_iff.mp h]
  | cons run more =>
    have hrows := flatMap_rows_runs rows
    rw [h] at hrows
    simp [← hrows, Run.rows, Run.code]

/-- Where a table is cut between two codes, so are its runs. -/
theorem runs_append {rows rows' : List Row}
    (h : ∀ p ∈ rows.getLast?, ∀ q ∈ rows'.head?, p.entityCode ≠ q.entityCode) :
    runs (rows ++ rows') = runs rows ++ runs rows' := by
  have hchain : (runs rows ++ runs rows').IsChain fun a b => a.code ≠ b.code := by
    refine List.isChain_append.mpr ⟨isChain_runs rows, isChain_runs rows', ?_⟩
    intro a ha b hb
    have hlast := code_getLast?_runs rows
    have hhead := code_head?_runs rows'
    rw [Option.mem_def.mp ha, Option.map_some, eq_comm, Option.map_eq_some_iff] at hlast
    rw [Option.mem_def.mp hb, Option.map_some, eq_comm, Option.map_eq_some_iff] at hhead
    obtain ⟨p, hp, hpa⟩ := hlast
    obtain ⟨q, hq, hqb⟩ := hhead
    exact hpa ▸ hqb ▸ h p hp q hq
  have hruns := runs_eq_of_isChain hchain
  rwa [List.flatMap_append, flatMap_rows_runs, flatMap_rows_runs] at hruns

theorem runs_concat_of_start {rows : List Row} {r : Row}
    (h : ∀ p ∈ rows.getLast?, p.entityCode ≠ r.entityCode) :
    runs (rows ++ [r]) = runs rows ++ [.single r] := by
  apply runs_append
  intro p hp q hq
  obtain rfl : r = q := by simpa using hq
  exact h p hp

theorem runs_concat_of_same {rows : List Row} {r : Row} {last : Run}
    (hlast : (runs rows).getLast? = some last) (h : r.entityCode = last.code) :
    runs (rows ++ [r]) = (runs rows).dropLast ++ [last.extend r h] := by
  have hsplit : (runs rows).dropLast ++ [last] = runs rows :=
    List.dropLast_append_getLast? last hlast
  have hchain : ((runs rows).dropLast ++ [last.extend r h]).IsChain fun a b => a.code ≠ b.code := by
    have hruns := isChain_runs rows
    rw [← hsplit, List.isChain_append] at hruns
    refine List.isChain_append.mpr ⟨hruns.1, List.isChain_singleton _, ?_⟩
    intro a ha b hb
    obtain rfl : last.extend r h = b := by simpa using hb
    exact hruns.2.2 a ha last (by simp)
  have hruns := runs_eq_of_isChain hchain
  have hrows : ((runs rows).dropLast ++ [last.extend r h]).flatMap Run.rows = rows ++ [r] := by
    conv_rhs => rw [← flatMap_rows_runs rows, ← hsplit]
    simp [Run.extend, Run.rows]
  rwa [hrows] at hruns

end Census
