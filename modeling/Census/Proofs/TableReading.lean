import Mathlib
import Census.Proofs.RowRuns

/-!
What a metadata table declares. The state of a reading is told by the runs of the rows read so
far; a reading fails at the first row that offends, and without one at most at the end.
-/

namespace Census

/-- A row differs in code from the row before it, if there is one. -/
def StartsRun (before : List Row) (r : Row) : Prop :=
  ∀ p ∈ before.getLast?, p.entityCode ≠ r.entityCode

/-- How a row offends against the rows before it, and the error that says so. -/
inductive Offence (before : List Row) (r : Row) : DictionaryError → Prop
  | missing_code (hcode : r.entityCode = "") :
    Offence before r (.missingEntityCode (before.length + 1))
  /-- A run is started under the name of an earlier run. -/
  | duplicate_entity (hcode : r.entityCode ≠ "") (hstart : StartsRun before r) (run : Run)
    (hrun : run ∈ runs before) (hname : run.name = Text.trim r.entityName) :
    Offence before r (.duplicateEntity (Text.trim r.entityName) (before.length + 1))
  /-- A run is prolonged by a variable that one of its rows after the first has already. -/
  | duplicate_variable (hcode : r.entityCode ≠ "") (run : Run)
    (hlast : (runs before).getLast? = some run) (hsame : run.code = r.entityCode)
    (hblank : Text.trim r.variableName ≠ "") (q : Row) (hq : q ∈ run.later)
    (hname : Text.trim q.variableName = Text.trim r.variableName) :
    Offence before r (.duplicateVariable run.name (Text.trim r.variableName) (before.length + 1))

def NoOffence (rows : List Row) : Prop :=
  ∀ before r later, rows = before ++ r :: later → ∀ err, ¬ Offence before r err

theorem map_dropLast_concat {α : Type} {rs : List Run} {last : Run} (f : Run → α)
    (h : rs.getLast? = some last) : rs.dropLast.map f ++ [f last] = rs.map f := by
  conv_rhs => rw [← List.dropLast_append_getLast? last h]
  simp

theorem startsRun_iff {before : List Row} {r : Row} :
    StartsRun before r ↔ ∀ run ∈ (runs before).getLast?, run.code ≠ r.entityCode := by
  have hcode := code_getLast?_runs before
  cases hrun : (runs before).getLast? <;> cases hrow : before.getLast? <;>
    simp_all [StartsRun]

/-- What a row that does not offend does: it starts a run under a new name, or prolongs the last
run by a new variable or by none. -/
theorem cases_of_no_offence {rows : List Row} {r : Row} (h : ∀ err, ¬ Offence rows r err) :
    r.entityCode ≠ "" ∧
      ((StartsRun rows r ∧ ∀ run ∈ runs rows, run.name ≠ Text.trim r.entityName) ∨
        ∃ last, (runs rows).getLast? = some last ∧ r.entityCode = last.code ∧
          (Text.trim r.variableName ≠ "" →
            ∀ q ∈ last.later, Text.trim q.variableName ≠ Text.trim r.variableName)) := by
  have hcode : r.entityCode ≠ "" := fun hcode => h _ (.missing_code hcode)
  refine ⟨hcode, ?_⟩
  by_cases hstart : StartsRun rows r
  · refine Or.inl ⟨hstart, fun run hrun hname => ?_⟩
    exact h _ (.duplicate_entity hcode hstart run hrun hname)
  · rw [startsRun_iff] at hstart
    push Not at hstart
    obtain ⟨last, hlast, hsame⟩ := hstart
    refine Or.inr ⟨last, hlast, hsame.symm, fun hblank q hq hname => ?_⟩
    exact h _ (.duplicate_variable hcode last hlast hsame hblank q hq hname)

theorem noOffence_nil : NoOffence [] := by
  intro before r later h
  simp at h

theorem noOffence_concat_iff {rows : List Row} {r : Row} :
    NoOffence (rows ++ [r]) ↔ NoOffence rows ∧ ∀ err, ¬ Offence rows r err := by
  constructor
  · intro h
    refine ⟨fun before q later hsplit => h before q (later ++ [r]) (by simp [hsplit]), ?_⟩
    exact h rows r [] rfl
  · intro h before q later hsplit
    obtain ⟨hrows, hr⟩ := h
    rcases List.eq_nil_or_concat later with rfl | ⟨shorter, s, rfl⟩
    · obtain ⟨rfl, hq⟩ := List.append_inj' hsplit rfl
      obtain rfl : r = q := by simpa using hq
      exact hr
    · have hsplit' : rows ++ [r] = (before ++ q :: shorter) ++ [s] := by simpa using hsplit
      exact hrows before q shorter (List.append_inj' hsplit' rfl).1

theorem noOffence_or_first (rows : List Row) :
    NoOffence rows ∨ ∃ before r later err,
      rows = before ++ r :: later ∧ NoOffence before ∧ Offence before r err := by
  induction rows using List.reverseRecOn with
  | nil => exact Or.inl noOffence_nil
  | append_singleton rows r ih =>
    rcases ih with hrows | ⟨before, q, later, err, rfl, hbefore, hq⟩
    · by_cases hr : ∃ err, Offence rows r err
      · obtain ⟨err, hr⟩ := hr
        exact Or.inr ⟨rows, r, [], err, rfl, hrows, hr⟩
      · exact Or.inl (noOffence_concat_iff.mpr ⟨hrows, not_exists.mp hr⟩)
    · exact Or.inr ⟨before, q, later ++ [r], err, by simp, hbefore, hq⟩

namespace Run

theorem vars_extend (run : Run) (r : Row) (h : r.entityCode = run.code) :
    (run.extend r h).vars = run.vars ++ r.declares?.toList := by
  by_cases hblank : Text.trim r.variableName = "" <;>
    simp [vars, extend, Row.declares?, hblank]

theorem name_mem_vars_iff (run : Run) (variableName : String) :
    (∃ v ∈ run.vars, v.name = variableName) ↔
      variableName ≠ "" ∧ ∃ q ∈ run.later, Text.trim q.variableName = variableName := by
  constructor
  · intro h
    obtain ⟨v, hv, rfl⟩ := h
    obtain ⟨q, hq, rfl⟩ := List.mem_map.mp hv
    obtain ⟨hmem, hblank⟩ := List.mem_filter.mp hq
    exact ⟨of_decide_eq_true hblank, q, hmem, rfl⟩
  · intro h
    obtain ⟨hblank, q, hq, rfl⟩ := h
    refine ⟨_, List.mem_map_of_mem (List.mem_filter.mpr ⟨hq, ?_⟩), rfl⟩
    exact decide_eq_true hblank

/-- The run as an entity whose rows are still being read. -/
def opened (run : Run) : OpenEntity :=
  ⟨run.code, run.name, run.vars⟩

/-- The entity that the run declares, classed by its type tags. -/
def entity (layout : Layout) (run : Run) : Entity :=
  ⟨run.code, run.name, if run.IsGeographic layout then .geographic else .data, run.vars⟩

theorem isGeographic_opened (run : Run) (layout : Layout) :
    run.opened.isGeographic layout = decide (run.IsGeographic layout) := by
  rw [Bool.eq_iff_iff, decide_eq_true_eq, IsGeographic, OpenEntity.isGeographic, List.any_eq_true]
  simp [opened]

theorem classed_opened (run : Run) (layout : Layout) :
    run.opened.classed layout = run.entity layout := by
  rw [OpenEntity.classed, isGeographic_opened]
  by_cases h : run.IsGeographic layout <;> simp [h, entity, OpenEntity.close, opened]

end Run

namespace Intake

/-- The state in which reading some rows leaves the table. -/
def reached (layout : Layout) (rows : List Row) : Intake where
  closed := (runs rows).dropLast.map (Run.entity layout)
  current := (runs rows).getLast?.map Run.opened

theorem reached_concat_of_start {layout : Layout} {rows : List Row} {r : Row}
    (h : StartsRun rows r) :
    reached layout (rows ++ [r]) =
      ⟨(runs rows).map (Run.entity layout), some (Run.single r).opened⟩ := by
  rw [reached, runs_concat_of_start h]
  simp

theorem reached_concat_of_same {layout : Layout} {rows : List Row} {r : Row} {last : Run}
    (hlast : (runs rows).getLast? = some last) (h : r.entityCode = last.code) :
    reached layout (rows ++ [r]) =
      { reached layout rows with current := some (last.extend r h).opened } := by
  rw [reached, runs_concat_of_same hlast h]
  simp [reached]

theorem start_runs (layout : Layout) (rows : List Row) (r : Row) (n : ℕ) :
    start ((runs rows).map (Run.entity layout)) r.entityCode r n =
      if ∃ run ∈ runs rows, run.name = Text.trim r.entityName then
        .error (.duplicateEntity (Text.trim r.entityName) n)
      else .ok ⟨(runs rows).map (Run.entity layout), some (Run.single r).opened⟩ := by
  have hname : (((runs rows).map (Run.entity layout)).any fun e =>
      e.name == Text.trim r.entityName) = true ↔
        ∃ run ∈ runs rows, run.name = Text.trim r.entityName := by
    simp [List.any_eq_true, Run.entity]
  simp only [start, hname]
  rfl

theorem extend_opened {run : Run} {r : Row} (h : r.entityCode = run.code) (n : ℕ) :
    run.opened.extend r n =
      if Text.trim r.variableName ≠ "" ∧
          ∃ q ∈ run.later, Text.trim q.variableName = Text.trim r.variableName then
        .error (.duplicateVariable run.name (Text.trim r.variableName) n)
      else .ok (run.extend r h).opened := by
  have hopened : (run.extend r h).opened =
      { run.opened with vars := run.vars ++ r.declares?.toList } := by
    rw [Run.opened, Run.vars_extend]
    rfl
  by_cases hblank : Text.trim r.variableName = ""
  · have hnone : r.declares? = none := by simp [Row.declares?, hblank]
    rw [OpenEntity.extend, hnone, if_neg (fun hdup => hdup.1 hblank), hopened, hnone]
    simp [Run.opened]
  · have hsome : r.declares? = some ⟨Text.trim r.variableName, Text.trim r.typeTag, []⟩ := by
      simp [Row.declares?, hblank]
    have hany : (run.opened.vars.any fun w => w.name == Text.trim r.variableName) = true ↔
        ∃ q ∈ run.later, Text.trim q.variableName = Text.trim r.variableName := by
      have hmem := run.name_mem_vars_iff (Text.trim r.variableName)
      simpa [hblank, Run.opened] using hmem
    simp only [OpenEntity.extend, hsome, hany, hopened, ne_eq, hblank, not_false_eq_true, true_and]
    rfl

theorem step_of_start {layout : Layout} {rows : List Row} {r : Row} {n : ℕ}
    (hcode : r.entityCode ≠ "") (h : StartsRun rows r) :
    (reached layout rows).step layout r n =
      start ((runs rows).map (Run.entity layout)) r.entityCode r n := by
  rw [startsRun_iff] at h
  rw [step, if_neg hcode]
  cases hlast : (runs rows).getLast? with
  | none =>
    have hnil : runs rows = [] := List.getLast?_eq_none_iff.mp hlast
    simp [reached, hnil]
  | some last =>
    have hne : last.opened.code ≠ r.entityCode := h last hlast
    simp only [reached, hlast, Option.map_some, if_neg hne, Run.classed_opened,
      map_dropLast_concat (Run.entity layout) hlast]

theorem step_of_same {layout : Layout} {rows : List Row} {r : Row} {n : ℕ} {last : Run}
    (hcode : r.entityCode ≠ "") (hlast : (runs rows).getLast? = some last)
    (h : r.entityCode = last.code) :
    (reached layout rows).step layout r n =
      (last.opened.extend r n).map fun e => { reached layout rows with current := some e } := by
  have heq : last.opened.code = r.entityCode := h.symm
  have hcurrent : (reached layout rows).current = some last.opened := by simp [reached, hlast]
  rw [step, if_neg hcode, hcurrent]
  simp [heq]

theorem step_reached_of_offence (layout : Layout) {rows : List Row} {r : Row}
    {err : DictionaryError} (h : Offence rows r err) :
    (reached layout rows).step layout r (rows.length + 1) = .error err := by
  cases h with
  | missing_code hcode => simp [step, hcode]
  | duplicate_entity hcode hstart run hrun hname =>
    have hdup : ∃ run ∈ runs rows, run.name = Text.trim r.entityName := ⟨run, hrun, hname⟩
    rw [step_of_start hcode hstart, start_runs, if_pos hdup]
  | duplicate_variable hcode run hlast hsame hblank q hq hname =>
    rw [step_of_same hcode hlast hsame.symm, extend_opened hsame.symm,
      if_pos ⟨hblank, q, hq, hname⟩]
    rfl

theorem step_reached_of_noOffence (layout : Layout) {rows : List Row} {r : Row}
    (h : ∀ err, ¬ Offence rows r err) :
    (reached layout rows).step layout r (rows.length + 1) =
      .ok (reached layout (rows ++ [r])) := by
  obtain ⟨hcode, ⟨hstart, hnew⟩ | ⟨last, hlast, hsame, hnew⟩⟩ := cases_of_no_offence h
  · have hname : ¬ ∃ run ∈ runs rows, run.name = Text.trim r.entityName := by
      intro hdup
      obtain ⟨run, hrun, hname⟩ := hdup
      exact hnew run hrun hname
    rw [step_of_start hcode hstart, start_runs, if_neg hname, reached_concat_of_start hstart]
  · have hname : ¬ (Text.trim r.variableName ≠ "" ∧
        ∃ q ∈ last.later, Text.trim q.variableName = Text.trim r.variableName) := by
      intro hdup
      obtain ⟨q, hq, hname⟩ := hdup.2
      exact hnew hdup.1 q hq hname
    rw [step_of_same hcode hlast hsame, extend_opened hsame, if_neg hname,
      reached_concat_of_same hlast hsame]
    rfl

theorem run_append (layout : Layout) (s : Intake) (rows rows' : List Row) (n : ℕ) :
    s.run layout (rows ++ rows') n =
      (s.run layout rows n).bind fun s => s.run layout rows' (n + rows.length) := by
  induction rows generalizing s n with
  | nil => rfl
  | cons r rows ih =>
    rw [List.cons_append, run, run, List.length_cons]
    cases hstep : s.step layout r n with
    | error err => rfl
    | ok next =>
      have hn : n + (rows.length + 1) = n + 1 + rows.length := by omega
      rw [hn]
      exact ih next (n + 1)

theorem run_of_noOffence (layout : Layout) {rows : List Row} (h : NoOffence rows) :
    run layout {} rows 1 = .ok (reached layout rows) := by
  -- Each row leads from the state reached by the rows before it to the state reached with it.
  induction rows using List.reverseRecOn with
  | nil => rfl
  | append_singleton rows r ih =>
    obtain ⟨hrows, hr⟩ := noOffence_concat_iff.mp h
    have hstep := step_reached_of_noOffence layout hr
    rw [Nat.add_comm] at hstep
    rw [run_append, ih hrows, Except.bind, run, hstep]
    rfl

/-- The first row that offends decides, whatever follows it. -/
theorem run_of_first_offence (layout : Layout) {before later : List Row} {r : Row}
    {err : DictionaryError} (hbefore : NoOffence before) (hr : Offence before r err) :
    run layout {} (before ++ r :: later) 1 = .error err := by
  have hstep := step_reached_of_offence layout hr
  rw [Nat.add_comm] at hstep
  rw [run_append, run_of_noOffence layout hbefore, Except.bind, run, hstep]
  rfl

/-- The last run is closed by a rule of its own. -/
theorem finish_reached (layout : Layout) (rows : List Row) :
    (reached layout rows).finish layout =
      match (runs rows).getLast? with
      | none => .ok ⟨[]⟩
      | some last => (last.opened.trailing layout).map fun e =>
          ⟨(runs rows).dropLast.map (Run.entity layout) ++ [e]⟩ := by
  rw [finish]
  cases hlast : (runs rows).getLast? with
  | none =>
    have hnil : runs rows = [] := List.getLast?_eq_none_iff.mp hlast
    simp [reached, hnil]
  | some last => simp only [reached, hlast, Option.map_some]

end Intake

namespace Run

/-- The last run of a table contradicts a layout that fixes it as a data entity. -/
def Contradicts (run : Run) (layout : Layout) : Prop :=
  layout.trailingEntity = .alwaysData ∧ run.IsGeographic layout

theorem trailing_opened_of_contradicts {run : Run} {layout : Layout} (h : run.Contradicts layout) :
    run.opened.trailing layout = .error (.trailingEntityGeographic run.name) := by
  have hgeo : run.opened.isGeographic layout = true := by simp [isGeographic_opened, h.2]
  simp only [OpenEntity.trailing, h.1, hgeo, if_true]
  rfl

/-- Otherwise the last run is closed as every other, for a data entity has no geographic code. -/
theorem trailing_opened_of_not_contradicts {run : Run} {layout : Layout}
    (h : ¬ run.Contradicts layout) :
    run.opened.trailing layout = .ok (run.entity layout) := by
  cases hrule : layout.trailingEntity with
  | classify => simp [OpenEntity.trailing, hrule, classed_opened]
  | alwaysData =>
    have hno : ¬ run.IsGeographic layout := fun hgeo => h ⟨hrule, hgeo⟩
    have hdata : run.opened.isGeographic layout = false := by simp [isGeographic_opened, hno]
    simp only [OpenEntity.trailing, hrule, hdata, entity, if_neg hno]
    rfl

end Run

namespace Dictionary

theorem ofRows_of_first_offence (layout : Layout) {before later : List Row} {r : Row}
    {err : DictionaryError} (hbefore : NoOffence before) (hr : Offence before r err) :
    ofRows layout (before ++ r :: later) = .error err := by
  rw [ofRows, Intake.run_of_first_offence layout hbefore hr]
  rfl

theorem ofRows_of_contradiction {layout : Layout} {rows : List Row} {last : Run}
    (h : NoOffence rows) (hlast : (runs rows).getLast? = some last)
    (hgeo : last.Contradicts layout) :
    ofRows layout rows = .error (.trailingEntityGeographic last.name) := by
  have hfinish := Intake.finish_reached layout rows
  simp only [hlast, Run.trailing_opened_of_contradicts hgeo] at hfinish
  rw [ofRows, Intake.run_of_noOffence layout h]
  exact hfinish

/-- Where no row offends and the layout is not contradicted, the runs become the entities. -/
theorem ofRows_of_noOffence {layout : Layout} {rows : List Row} (h : NoOffence rows)
    (hlast : ∀ last ∈ (runs rows).getLast?, ¬ last.Contradicts layout) :
    ofRows layout rows = .ok ⟨(runs rows).map (Run.entity layout)⟩ := by
  have hfinish := Intake.finish_reached layout rows
  rw [ofRows, Intake.run_of_noOffence layout h]
  refine hfinish.trans ?_
  cases hl : (runs rows).getLast? with
  | none => simp [List.getLast?_eq_none_iff.mp hl]
  | some last =>
    simp only [Run.trailing_opened_of_not_contradicts (hlast last hl), Except.map,
      map_dropLast_concat (Run.entity layout) hl]

end Dictionary

end Census
