import Mathlib
import Census.Proofs.CategoryLists
import Census.Proofs.TableReading

/-!
The outcome of reading a metadata table: the dictionary of its runs, or exactly one error.
-/

namespace Census

/-- A longer run keeps the name of its first row. -/
theorem names_runs_concat_of_same {rows : List Row} {r : Row} {last : Run}
    (hlast : (runs rows).getLast? = some last) (hsame : r.entityCode = last.code) :
    (runs (rows ++ [r])).map Run.name = (runs rows).map Run.name := by
  rw [runs_concat_of_same hlast hsame, List.map_append, ← map_dropLast_concat Run.name hlast]
  rfl

/-- A run is only started under a new name. -/
theorem nodup_names_of_noOffence {rows : List Row} (h : NoOffence rows) :
    ((runs rows).map Run.name).Nodup := by
  induction rows using List.reverseRecOn with
  | nil => exact List.nodup_nil
  | append_singleton rows r ih =>
    obtain ⟨hrows, hr⟩ := noOffence_concat_iff.mp h
    obtain ⟨-, ⟨hstart, hnew⟩ | ⟨last, hlast, hsame, -⟩⟩ := cases_of_no_offence hr
    · rw [runs_concat_of_start hstart, List.map_append, List.map_singleton, ← List.concat_eq_append]
      refine (ih hrows).concat ?_
      intro hmem
      obtain ⟨run, hrun, hname⟩ := List.mem_map.mp hmem
      exact hnew run hrun hname
    · rw [names_runs_concat_of_same hlast hsame]
      exact ih hrows

theorem nodup_vars_extend {run : Run} {r : Row} (hsame : r.entityCode = run.code)
    (hrun : (run.vars.map Variable.name).Nodup)
    (hnew : Text.trim r.variableName ≠ "" →
      ∀ q ∈ run.later, Text.trim q.variableName ≠ Text.trim r.variableName) :
    ((run.extend r hsame).vars.map Variable.name).Nodup := by
  rw [Run.vars_extend]
  by_cases hblank : Text.trim r.variableName = ""
  · simpa [Row.declares?, hblank] using hrun
  · have hfresh : Text.trim r.variableName ∉ run.vars.map Variable.name := by
      intro hmem
      obtain ⟨-, q, hq, hname⟩ := (run.name_mem_vars_iff _).mp (List.mem_map.mp hmem)
      exact hnew hblank q hq hname
    have hconcat := hrun.concat hfresh
    simpa [Row.declares?, hblank] using hconcat

/-- A run is only prolonged by a new variable. -/
theorem nodup_vars_of_noOffence {rows : List Row} (h : NoOffence rows) :
    ∀ run ∈ runs rows, (run.vars.map Variable.name).Nodup := by
  induction rows using List.reverseRecOn with
  | nil =>
    intro run hrun
    cases hrun
  | append_singleton rows r ih =>
    obtain ⟨hrows, hr⟩ := noOffence_concat_iff.mp h
    intro run hrun
    obtain ⟨-, ⟨hstart, -⟩ | ⟨last, hlast, hsame, hnew⟩⟩ := cases_of_no_offence hr
    · rw [runs_concat_of_start hstart, List.mem_append, List.mem_singleton] at hrun
      rcases hrun with hrun | rfl
      · exact ih hrows run hrun
      · exact List.nodup_nil
    · rw [runs_concat_of_same hlast hsame, List.mem_append, List.mem_singleton] at hrun
      rcases hrun with hrun | rfl
      · exact ih hrows run (List.mem_of_mem_dropLast hrun)
      · exact nodup_vars_extend hsame (ih hrows last (List.mem_of_getLast? hlast)) hnew

namespace Dictionary

/-- A table is accepted exactly when no row offends and its last run suits the layout, and then
its runs are the entities. -/
theorem ofRows_eq_ok_iff {layout : Layout} {rows : List Row} {d : Dictionary} :
    ofRows layout rows = .ok d ↔
      NoOffence rows ∧ (∀ last ∈ (runs rows).getLast?, ¬ last.Contradicts layout) ∧
        d = ⟨(runs rows).map (Run.entity layout)⟩ := by
  constructor
  · intro h
    rcases noOffence_or_first rows with hrows | ⟨before, r, later, err, rfl, hbefore, hr⟩
    · have hlast : ∀ last ∈ (runs rows).getLast?, ¬ last.Contradicts layout := by
        intro last hlast hgeo
        rw [ofRows_of_contradiction hrows hlast hgeo] at h
        cases h
      rw [ofRows_of_noOffence hrows hlast] at h
      exact ⟨hrows, hlast, (Except.ok.inj h).symm⟩
    · rw [ofRows_of_first_offence layout hbefore hr] at h
      cases h
  · intro h
    obtain ⟨hrows, hlast, rfl⟩ := h
    exact ofRows_of_noOffence hrows hlast

/-- Where no row offends, only the last run can be at fault. -/
theorem ofRows_eq_error_iff {layout : Layout} {rows : List Row} {err : DictionaryError}
    (hrows : NoOffence rows) :
    ofRows layout rows = .error err ↔
      ∃ last ∈ (runs rows).getLast?, last.Contradicts layout ∧
        err = .trailingEntityGeographic last.name := by
  constructor
  · intro herror
    by_contra hnone
    have hlast : ∀ last ∈ (runs rows).getLast?, ¬ last.Contradicts layout := by
      intro last hlast hgeo
      have h := ofRows_of_contradiction hrows hlast hgeo
      rw [herror] at h
      exact hnone ⟨last, hlast, hgeo, Except.error.inj h⟩
    rw [ofRows_of_noOffence hrows hlast] at herror
    cases herror
  · intro h
    obtain ⟨last, hlast, hgeo, rfl⟩ := h
    exact ofRows_of_contradiction hrows hlast hgeo

theorem namesDistinct_of_ofRows {layout : Layout} {rows : List Row} {d : Dictionary}
    (h : ofRows layout rows = .ok d) : d.NamesDistinct := by
  obtain ⟨hrows, -, rfl⟩ := ofRows_eq_ok_iff.mp h
  constructor
  · have hnames := nodup_names_of_noOffence hrows
    rwa [List.map_map]
  · intro e he
    obtain ⟨run, hrun, rfl⟩ := List.mem_map.mp he
    exact nodup_vars_of_noOffence hrows run hrun

/-- Every entity is of one of the two kinds. -/
theorem perm_namesOf (d : Dictionary) :
    (d.namesOf .geographic ++ d.namesOf .data).Perm (d.entities.map Entity.name) := by
  have hdata : (d.entities.filter fun e => e.kind = .data) =
      d.entities.filter fun e => !decide (e.kind = .geographic) := by
    apply List.filter_congr
    intro e _
    cases e.kind <;> rfl
  rw [namesOf, namesOf, hdata, ← List.map_append]
  exact (List.filter_append_perm _ _).map _

end Dictionary

/-- The value of every successful reading. Entities correspond to the runs of the table: each has
the code of its run, the name in its first row, and the variables that its other rows name. It is
geographic when one of them has the layout's tag, save that a layout may fix the last entity as a
data entity. The names of the two kinds part the entities. -/
theorem ofRows_declares_runs {layout : Layout} {rows : List Row} {d : Dictionary}
    (h : Dictionary.ofRows layout rows = .ok d) :
    List.Forall₂ (fun (run : Run) (e : Entity) =>
        e.code = run.first.entityCode ∧ e.name = Text.trim run.first.entityName ∧
          e.vars = (run.later.filter fun r => Text.trim r.variableName ≠ "").map fun r =>
            ⟨Text.trim r.variableName, Text.trim r.typeTag, []⟩)
      (runs rows) d.entities ∧
    (∀ i e, d.entities[i]? = some e →
      (e.kind = .geographic ↔
        (∃ v ∈ e.vars, v.typeTag = layout.geoTypeTag) ∧
          ¬ (i + 1 = d.entities.length ∧ layout.trailingEntity = .alwaysData))) ∧
    (∀ kind, d.namesOf kind = (d.entities.filter fun e => e.kind = kind).map Entity.name) ∧
    (∀ e ∈ d.entities,
      (d.namesOf .geographic).count e.name + (d.namesOf .data).count e.name = 1) := by
  have hdistinct := Dictionary.namesDistinct_of_ofRows h
  obtain ⟨-, hlast, rfl⟩ := Dictionary.ofRows_eq_ok_iff.mp h
  refine ⟨?_, ?_, fun _ => rfl, ?_⟩
  · rw [List.forall₂_map_right_iff, List.forall₂_same]
    exact fun run _ => ⟨rfl, rfl, rfl⟩
  · intro i e he
    rw [List.getElem?_map, Option.map_eq_some_iff] at he
    obtain ⟨run, hrun, rfl⟩ := he
    have hkind : (run.entity layout).kind = .geographic ↔ run.IsGeographic layout := by
      by_cases hgeo : run.IsGeographic layout <;> simp [Run.entity, hgeo]
    have hfixed : i + 1 = (runs rows).length → layout.trailingEntity = .alwaysData →
        ¬ run.IsGeographic layout := by
      intro hi hrule hgeo
      have hget : (runs rows).getLast? = some run := by
        rw [List.getLast?_eq_getElem?, ← hrun]
        congr 1
        omega
      exact hlast run hget ⟨hrule, hgeo⟩
    rw [hkind, List.length_map]
    constructor
    · exact fun hgeo => ⟨hgeo, fun hend => hfixed hend.1 hend.2 hgeo⟩
    · exact fun hgeo => hgeo.1
  · intro e he
    rw [← List.count_append, (Dictionary.perm_namesOf _).count_eq]
    exact List.count_eq_one_of_mem hdistinct.entities (List.mem_map_of_mem he)

/-- A table of two entities, with a row of no variable in the first. -/
def provinceTable : List Row :=
  [⟨"1.0", " PROV ", "", ""⟩, ⟨"1.1", "PROV", "REDCODEN", " C "⟩, ⟨"1.2", "PROV", " ", "C"⟩,
    ⟨"2.0", "PERSONA", "", "C"⟩, ⟨"2.1", "HOGAR", "P02", "I"⟩]

def provinceCensus : Dictionary :=
  ⟨[⟨"1", "PROV", .geographic, [⟨"REDCODEN", "C", []⟩]⟩,
    ⟨"2", "PERSONA", .data, [⟨"P02", "I", []⟩]⟩]⟩

theorem provinceTable_declares_runs :
    Dictionary.ofRows {} provinceTable = .ok provinceCensus ∧
      ∀ e ∈ provinceCensus.entities,
        (provinceCensus.namesOf .geographic).count e.name +
          (provinceCensus.namesOf .data).count e.name = 1 := by
  have h : Dictionary.ofRows {} provinceTable = .ok provinceCensus := by decide
  exact ⟨h, (ofRows_declares_runs h).2.2.2⟩

/-- The failures of a reading. The first row that offends decides, under every layout and whatever
follows it. Where none does, only a layout that fixes the last entity as a data entity can be
contradicted, by a geographic variable in the last run; else the reading succeeds. -/
theorem ofRows_fails_exactly (layout : Layout) (rows : List Row) :
    (∀ before r later err, rows = before ++ r :: later → NoOffence before →
      Offence before r err → Dictionary.ofRows layout rows = .error err) ∧
    (NoOffence rows →
      (∀ err, Dictionary.ofRows layout rows = .error err ↔
        ∃ last ∈ (runs rows).getLast?, layout.trailingEntity = .alwaysData ∧
          (∃ v ∈ last.vars, v.typeTag = layout.geoTypeTag) ∧
          err = .trailingEntityGeographic last.name) ∧
      ((∃ d, Dictionary.ofRows layout rows = .ok d) ↔
        ¬ ∃ last ∈ (runs rows).getLast?, layout.trailingEntity = .alwaysData ∧
          ∃ v ∈ last.vars, v.typeTag = layout.geoTypeTag)) := by
  constructor
  · intro before r later err hsplit hbefore hr
    rw [hsplit]
    exact Dictionary.ofRows_of_first_offence layout hbefore hr
  · intro hrows
    refine ⟨?_, ?_, ?_⟩
    · intro err
      rw [Dictionary.ofRows_eq_error_iff hrows]
      simp only [Run.Contradicts, Run.IsGeographic, and_assoc]
    · intro hok hgeo
      obtain ⟨d, hd⟩ := hok
      obtain ⟨last, hlast, hrule, htag⟩ := hgeo
      exact (Dictionary.ofRows_eq_ok_iff.mp hd).2.1 last hlast ⟨hrule, htag⟩
    · intro hno
      have hlast : ∀ last ∈ (runs rows).getLast?, ¬ last.Contradicts layout :=
        fun last hlast hgeo => hno ⟨last, hlast, hgeo.1, hgeo.2⟩
      exact ⟨_, Dictionary.ofRows_of_noOffence hrows hlast⟩

end Census
