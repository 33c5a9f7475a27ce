import Mathlib
import Census.Proofs.DictionaryInvariant

/-!
Tables put one behind the other. Whether a row offends can be read off the runs of the whole table;
where the code changes at the joint these are the runs of both parts, so all that can go wrong there
is a name that both parts use.
-/

namespace Census

theorem not_offence_of_start {rows : List Row} {r : Row} (hcode : r.entityCode ≠ "")
    (hstart : StartsRun rows r) (hnew : ∀ run ∈ runs rows, run.name ≠ Text.trim r.entityName)
    (err : DictionaryError) : ¬ Offence rows r err := by
  intro h
  cases h with
  | missing_code hmissing => exact hcode hmissing
  | duplicate_entity _ _ run hrun hname => exact hnew run hrun hname
  | duplicate_variable _ run hlast hsame => exact startsRun_iff.mp hstart run hlast hsame

theorem not_offence_of_same {rows : List Row} {r : Row} {last : Run} (hcode : r.entityCode ≠ "")
    (hlast : (runs rows).getLast? = some last) (hsame : r.entityCode = last.code)
    (hvars : ((last.extend r hsame).vars.map Variable.name).Nodup) (err : DictionaryError) :
    ¬ Offence rows r err := by
  intro h
  cases h with
  | missing_code hmissing => exact hcode hmissing
  | duplicate_entity _ hstart => exact startsRun_iff.mp hstart last hlast hsame.symm
  | duplicate_variable _ run hrun _ hblank q hq hname =>
    obtain rfl : last = run := Option.some.inj (hlast.symm.trans hrun)
    have hthere : Text.trim r.variableName ∈ last.vars.map Variable.name :=
      List.mem_map.mpr ((last.name_mem_vars_iff _).mpr ⟨hblank, q, hq, hname⟩)
    have hadded : (last.extend r hsame).vars.map Variable.name =
        last.vars.map Variable.name ++ [Text.trim r.variableName] := by
      simp [Run.vars_extend, Row.declares?, hblank]
    rw [hadded, List.nodup_append] at hvars
    exact hvars.2.2 _ hthere _ List.mem_cons_self rfl

/-- No row offends just when every row has a code, no two runs have one name, and within no run two
rows declare one variable. -/
theorem noOffence_iff {rows : List Row} :
    NoOffence rows ↔ (∀ r ∈ rows, r.entityCode ≠ "") ∧ ((runs rows).map Run.name).Nodup ∧
      ∀ run ∈ runs rows, (run.vars.map Variable.name).Nodup := by
  constructor
  · intro h
    exact ⟨entityCode_ne_of_noOffence h, nodup_names_of_noOffence h, nodup_vars_of_noOffence h⟩
  -- Each row is judged by the runs in front of it, so the last one is taken off at each step.
  · induction rows using List.reverseRecOn with
    | nil => exact fun _ => noOffence_nil
    | append_singleton rows r ih =>
      intro h
      obtain ⟨hcodes, hnames, hvars⟩ := h
      have hcode : r.entityCode ≠ "" := hcodes r (by simp)
      have hcodes' : ∀ q ∈ rows, q.entityCode ≠ "" :=
        fun q hq => hcodes q (List.mem_append_left _ hq)
      by_cases hstart : StartsRun rows r
      · rw [runs_concat_of_start hstart] at hnames hvars
        rw [List.map_append, List.nodup_append] at hnames
        have hnew : ∀ run ∈ runs rows, run.name ≠ Text.trim r.entityName :=
          fun run hrun => hnames.2.2 _ (List.mem_map_of_mem hrun) _ List.mem_cons_self
        have hvars' : ∀ run ∈ runs rows, (run.vars.map Variable.name).Nodup :=
          fun run hrun => hvars run (List.mem_append_left _ hrun)
        exact noOffence_concat_iff.mpr
          ⟨ih ⟨hcodes', hnames.1, hvars'⟩, not_offence_of_start hcode hstart hnew⟩
      · rw [startsRun_iff] at hstart
        push Not at hstart
        obtain ⟨last, hlast, hcode'⟩ := hstart
        have hsame : r.entityCode = last.code := hcode'.symm
        rw [names_runs_concat_of_same hlast hsame] at hnames
        rw [runs_concat_of_same hlast hsame] at hvars
        have hlong : ((last.extend r hsame).vars.map Variable.name).Nodup :=
          hvars _ (by simp)
        have hvars' : ∀ run ∈ runs rows, (run.vars.map Variable.name).Nodup := by
          intro run hrun
          rw [← List.dropLast_append_getLast? last hlast, List.mem_append,
            List.mem_singleton] at hrun
          rcases hrun with hrun | rfl
          · exact hvars run (List.mem_append_left _ hrun)
          · rw [Run.vars_extend, List.map_append] at hlong
            exact (List.nodup_append.mp hlong).1
        exact noOffence_concat_iff.mpr
          ⟨ih ⟨hcodes', hnames, hvars'⟩, not_offence_of_same hcode hlast hsame hlong⟩

variable {layout : Layout} {first second : List Row}

/-- No code runs on from the first table into the second. -/
def CodesPart (first second : List Row) : Prop :=
  ∀ p ∈ first.getLast?, ∀ q ∈ second.head?, p.entityCode ≠ q.entityCode

theorem noOffence_append_iff (hcut : CodesPart first second) :
    NoOffence (first ++ second) ↔ NoOffence first ∧ NoOffence second ∧
      ∀ run ∈ runs first, ∀ run' ∈ runs second, run.name ≠ run'.name := by
  simp only [noOffence_iff, runs_append hcut, List.map_append, List.nodup_append, List.mem_append,
    or_imp, forall_and, List.forall_mem_map]
  tauto

theorem getLast?_runs_append (hcut : CodesPart first second) (hsecond : second ≠ []) :
    (runs (first ++ second)).getLast? = (runs second).getLast? := by
  have hruns : runs second ≠ [] := fun hnil => hsecond (runs_eq_nil_iff.mp hnil)
  rw [runs_append hcut, List.getLast?_append_of_ne_nil _ hruns]

namespace Dictionary

/-- Where the last entity is classed as every other, only rows can be at fault. -/
theorem ofRows_classify_eq_ok_iff {rows : List Row} {d : Dictionary} :
    ofRows { layout with trailingEntity := .classify } rows = .ok d ↔
      NoOffence rows ∧ d = ⟨(runs rows).map (Run.entity layout)⟩ := by
  rw [ofRows_eq_ok_iff]
  constructor
  · intro h
    exact ⟨h.1, h.2.2⟩
  · intro h
    refine ⟨h.1, fun last _ hlast => ?_, h.2⟩
    cases hlast.1

/-- A table in two parts is accepted just when both parts are, the first as one that more entities
follow, and no entity of the one has the name of an entity of the other. -/
theorem ofRows_append_eq_ok_iff (hcut : CodesPart first second) (hsecond : second ≠ [])
    {d : Dictionary} :
    ofRows layout (first ++ second) = .ok d ↔
      ∃ d₁ d₂, ofRows { layout with trailingEntity := .classify } first = .ok d₁ ∧
        ofRows layout second = .ok d₂ ∧
        (∀ e ∈ d₁.entities, ∀ f ∈ d₂.entities, e.name ≠ f.name) ∧
        d = ⟨d₁.entities ++ d₂.entities⟩ := by
  have hnames : (∀ e ∈ (runs first).map (Run.entity layout),
      ∀ f ∈ (runs second).map (Run.entity layout), e.name ≠ f.name) ↔
        ∀ run ∈ runs first, ∀ run' ∈ runs second, run.name ≠ run'.name := by
    simp only [List.forall_mem_map]
    rfl
  rw [ofRows_eq_ok_iff, noOffence_append_iff hcut, getLast?_runs_append hcut hsecond,
    runs_append hcut, List.map_append]
  constructor
  · intro h
    obtain ⟨⟨hfirst, hrows, hdisjoint⟩, hlast, hd⟩ := h
    exact ⟨_, _, ofRows_classify_eq_ok_iff.mpr ⟨hfirst, rfl⟩,
      ofRows_eq_ok_iff.mpr ⟨hrows, hlast, rfl⟩, hnames.mpr hdisjoint, hd⟩
  · intro h
    obtain ⟨d₁, d₂, hd₁, hd₂, hdisjoint, hd⟩ := h
    obtain ⟨hfirst, rfl⟩ := ofRows_classify_eq_ok_iff.mp hd₁
    obtain ⟨hrows, hlast, rfl⟩ := ofRows_eq_ok_iff.mp hd₂
    exact ⟨⟨hfirst, hrows, hnames.mp hdisjoint⟩, hlast, hd⟩

theorem namesOf_append (entities entities' : List Entity) (kind : EntityKind) :
    namesOf ⟨entities ++ entities'⟩ kind = namesOf ⟨entities⟩ kind ++ namesOf ⟨entities'⟩ kind := by
  rw [namesOf, namesOf, namesOf, List.filter_append, List.map_append]

end Dictionary

/-- Tables compose. If a table ends where another code begins, and it is accepted with its last
entity classed by its tags, then it can be put in front of any accepted table that shares no entity
name with it: the whole is accepted and declares the entities of the first table and then those of
the second, each of the kind it had, so that the lists of names are put one behind the other as
well. And a table that is accepted as a whole is made of such parts wherever its code changes. -/
theorem joined_tables_declare_both (layout : Layout) {first second : List Row}
    (hsecond : second ≠ []) (hcut : CodesPart first second) :
    (∀ d₁ d₂, Dictionary.ofRows { layout with trailingEntity := .classify } first = .ok d₁ →
      Dictionary.ofRows layout second = .ok d₂ →
      (∀ e ∈ d₁.entities, ∀ f ∈ d₂.entities, e.name ≠ f.name) →
      ∃ d, Dictionary.ofRows layout (first ++ second) = .ok d ∧
        d.entities = d₁.entities ++ d₂.entities ∧
        ∀ kind, d.namesOf kind = d₁.namesOf kind ++ d₂.namesOf kind) ∧
    (∀ d, Dictionary.ofRows layout (first ++ second) = .ok d →
      ∃ d₁ d₂, Dictionary.ofRows { layout with trailingEntity := .classify } first = .ok d₁ ∧
        Dictionary.ofRows layout second = .ok d₂ ∧
        (∀ e ∈ d₁.entities, ∀ f ∈ d₂.entities, e.name ≠ f.name) ∧
        d.entities = d₁.entities ++ d₂.entities) := by
  constructor
  · intro d₁ d₂ hfirst hrows hdisjoint
    have hwhole := (Dictionary.ofRows_append_eq_ok_iff hcut hsecond).mpr
      ⟨d₁, d₂, hfirst, hrows, hdisjoint, rfl⟩
    exact ⟨_, hwhole, rfl, Dictionary.namesOf_append d₁.entities d₂.entities⟩
  · intro d hwhole
    obtain ⟨d₁, d₂, hfirst, hrows, hdisjoint, rfl⟩ :=
      (Dictionary.ofRows_append_eq_ok_iff hcut hsecond).mp hwhole
    exact ⟨d₁, d₂, hfirst, hrows, hdisjoint, rfl⟩

/-- The rows of an area level and those of a data entity. The first table is refused under the
layout under which the whole is read, since it ends with an area level. -/
def areaTable : List Row :=
  [⟨"1.0", " PROV ", "", ""⟩, ⟨"1.1", "PROV", "REDCODEN", " C "⟩, ⟨"1.2", "PROV", " ", "C"⟩]

def peopleTable : List Row :=
  [⟨"2.0", "PERSONA", "", "C"⟩, ⟨"2.1", "HOGAR", "P02", "I"⟩]

theorem areaTable_in_front_of_peopleTable :
    peopleTable ≠ [] ∧ CodesPart areaTable peopleTable ∧
      Dictionary.ofRows {} areaTable = .error (.trailingEntityGeographic "PROV") ∧
      Dictionary.ofRows { trailingEntity := .classify } areaTable =
        .ok ⟨[⟨"1", "PROV", .geographic, [⟨"REDCODEN", "C", []⟩]⟩]⟩ ∧
      Dictionary.ofRows {} peopleTable =
        .ok ⟨[⟨"2", "PERSONA", .data, [⟨"P02", "I", []⟩]⟩]⟩ ∧
      ∃ d, Dictionary.ofRows {} (areaTable ++ peopleTable) = .ok d ∧
        d.namesOf .geographic = ["PROV"] ∧ d.namesOf .data = ["PERSONA"] := by
  have hcut : CodesPart areaTable peopleTable := by
    rw [CodesPart]
    decide
  have hfirst : Dictionary.ofRows { trailingEntity := .classify } areaTable =
      .ok ⟨[⟨"1", "PROV", .geographic, [⟨"REDCODEN", "C", []⟩]⟩]⟩ := by
    decide
  have hrows : Dictionary.ofRows {} peopleTable =
      .ok ⟨[⟨"2", "PERSONA", .data, [⟨"P02", "I", []⟩]⟩]⟩ := by
    decide
  obtain ⟨hjoin, -⟩ := joined_tables_declare_both {} (by decide) hcut
  obtain ⟨d, hd, -, hnames⟩ := hjoin _ _ hfirst hrows (by decide)
  exact ⟨by decide, hcut, by decide, hfirst, hrows, d, hd, hnames .geographic, hnames .data⟩

end Census
