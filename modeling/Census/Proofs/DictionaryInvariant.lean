import Mathlib
import Census.Proofs.FeedEffect
import Census.Proofs.LineShape
import Census.Proofs.Prelude
import Census.Proofs.TableOutcome

/-!
The dictionaries that tables and feeds lead to, and what holds of every one of them: names are
distinct, texts are trimmed, and no code or label holds a character that the feed is cut at.
-/

namespace Census

/-- Declared by a table under the layout `built`, then given categories by any feeds, each read
under any layout. -/
inductive Dictionary.Reachable (built : Layout) : Dictionary → Prop
  | declared {rows : List Row} {d : Dictionary} (h : ofRows built rows = .ok d) :
    Reachable built d
  | attached {d filled : Dictionary} {layout : Layout} {text : String} {report : Report}
    (hd : Reachable built d) (h : d.attach layout text = .ok (filled, report)) :
    Reachable built filled

structure Category.WellFormed (c : Category) : Prop where
  code_ne : c.code ≠ ""
  code_trimmed : Text.IsTrimmed c.code
  code_chars : '.' ∉ c.code.toList ∧ ':' ∉ c.code.toList ∧ '\n' ∉ c.code.toList
  label_trimmed : Text.IsTrimmed c.label
  label_line : '\n' ∉ c.label.toList

structure Variable.WellFormed (v : Variable) : Prop where
  name_ne : v.name ≠ ""
  name_trimmed : Text.IsTrimmed v.name
  tag_trimmed : Text.IsTrimmed v.typeTag
  categories : ∀ c ∈ v.categories, c.WellFormed

structure Entity.WellFormed (built : Layout) (e : Entity) : Prop where
  code_ne : e.code ≠ ""
  code_trimmed : Text.IsTrimmed e.code
  code_point : '.' ∉ e.code.toList
  name_trimmed : Text.IsTrimmed e.name
  /-- An area level has a variable with the tag of the layout it was declared under. -/
  tagged : e.kind = .geographic → ∃ v ∈ e.vars, v.typeTag = built.geoTypeTag
  names_distinct : (e.vars.map Variable.name).Nodup
  vars : ∀ v ∈ e.vars, v.WellFormed

structure Dictionary.WellFormed (built : Layout) (d : Dictionary) : Prop where
  names_distinct : (d.entities.map Entity.name).Nodup
  /-- Neighbours differ in code; entities further apart may share one. -/
  codes_change : d.entities.IsChain fun a b => a.code ≠ b.code
  entities : ∀ e ∈ d.entities, e.WellFormed built

theorem Dictionary.WellFormed.namesDistinct {built : Layout} {d : Dictionary}
    (hd : d.WellFormed built) : d.NamesDistinct where
  entities := hd.names_distinct
  vars := fun e he => (hd.entities e he).names_distinct

namespace Row

theorem isTrimmed_entityCode (r : Row) : Text.IsTrimmed r.entityCode := by
  rw [entityCode]
  cases Text.cut? '.' (Text.trimChars r.code.toList) with
  | none => exact Text.isTrimmed_trim _
  | some p => exact Text.isTrimmed_ofList_trimChars _

theorem point_not_mem_entityCode (r : Row) : '.' ∉ r.entityCode.toList := by
  intro h
  rw [entityCode] at h
  cases hcut : Text.cut? '.' (Text.trimChars r.code.toList) with
  | none =>
    rw [hcut, Text.trim, String.toList_ofList] at h
    exact Text.cut?_eq_none_iff.mp hcut h
  | some p =>
    obtain ⟨-, hbefore⟩ := Text.cut?_eq_some_iff.mp hcut
    rw [hcut, String.toList_ofList] at h
    exact hbefore (Text.mem_of_mem_trimChars h)

end Row

/-- A row without a code is refused wherever it stands. -/
theorem entityCode_ne_of_noOffence {rows : List Row} (h : NoOffence rows) :
    ∀ r ∈ rows, r.entityCode ≠ "" := by
  intro r hr
  obtain ⟨before, later, rfl⟩ := List.append_of_mem hr
  exact (cases_of_no_offence (h before r later rfl)).1

namespace Run

theorem first_mem_of_mem_runs {rows : List Row} {run : Run} (h : run ∈ runs rows) :
    run.first ∈ rows := by
  have hrow : run.first ∈ (runs rows).flatMap Run.rows :=
    List.mem_flatMap.mpr ⟨run, h, List.mem_cons_self⟩
  rwa [flatMap_rows_runs] at hrow

theorem wellFormed_of_mem_vars {run : Run} {v : Variable} (h : v ∈ run.vars) : v.WellFormed := by
  obtain ⟨r, hr, rfl⟩ := List.mem_map.mp h
  obtain ⟨-, hblank⟩ := List.mem_filter.mp hr
  exact {
    name_ne := of_decide_eq_true hblank
    name_trimmed := Text.isTrimmed_trim _
    tag_trimmed := Text.isTrimmed_trim _
    categories := by simp }

theorem wellFormed_entity {rows : List Row} (hrows : NoOffence rows) (layout : Layout) {run : Run}
    (h : run ∈ runs rows) : (run.entity layout).WellFormed layout where
  code_ne := entityCode_ne_of_noOffence hrows _ (first_mem_of_mem_runs h)
  code_trimmed := run.first.isTrimmed_entityCode
  code_point := run.first.point_not_mem_entityCode
  name_trimmed := Text.isTrimmed_trim _
  tagged := by
    intro hkind
    by_contra hno
    have hdata : ¬ run.IsGeographic layout := hno
    simp [entity, hdata] at hkind
  names_distinct := nodup_vars_of_noOffence hrows run h
  vars := fun _ hv => wellFormed_of_mem_vars hv

end Run

theorem CategoryMode.mem_of_mem_merge {mode : CategoryMode} {old new : List Category} {c : Category}
    (h : c ∈ mode.merge old new) : c ∈ old ∨ c ∈ new := by
  cases mode with
  | append => exact List.mem_append.mp h
  | replace =>
    rw [merge] at h
    split_ifs at h
    · exact Or.inl h
    · exact Or.inr h

/-- What a category line attaches: its code ends at the first point of the line, in front of any
colon, and the line it stands on is one line. -/
theorem wellFormed_of_mem_inBlockLines {layout : Layout} {text : String} {a : Attachment}
    (h : a ∈ inBlockLines layout text) : a.category.WellFormed := by
  obtain ⟨i, hline, -, -⟩ := mem_inBlockLines_iff.mp h
  obtain ⟨line, hmem, hclass⟩ := List.mem_map.mp (List.mem_of_getElem? hline)
  have hnewline : '\n' ∉ line := Text.newline_not_mem_of_mem_lines hmem
  obtain ⟨before, after, rfl, hcolon, hpoint, hblank, hcode, hlabel⟩ :=
    FeedLine.exists_cut_of_classify_eq_category hclass
  have hbefore {ch : Char} (hch : ch ∉ before) : ch ∉ a.category.code.toList := by
    rw [hcode]
    exact not_mem_trimmed hch
  have hafter : '\n' ∉ a.category.label.toList := by
    rw [hlabel]
    exact not_mem_trimmed fun hmem => hnewline (by simp [hmem])
  exact {
    code_ne := hcode ▸ hblank
    code_trimmed := hcode ▸ isTrimmed_trimmed before
    code_chars :=
      ⟨hbefore hpoint, hbefore hcolon, hbefore fun hmem => hnewline (by simp [hmem])⟩
    label_trimmed := hlabel ▸ isTrimmed_trimmed after
    label_line := hafter }

namespace Dictionary

theorem wellFormed_of_ofRows {built : Layout} {rows : List Row} {d : Dictionary}
    (h : ofRows built rows = .ok d) : d.WellFormed built := by
  have hdistinct := namesDistinct_of_ofRows h
  obtain ⟨hrows, -, rfl⟩ := ofRows_eq_ok_iff.mp h
  refine ⟨hdistinct.entities, ?_, ?_⟩
  · exact List.isChain_map _ |>.mpr (isChain_runs rows)
  · intro e he
    obtain ⟨run, hrun, rfl⟩ := List.mem_map.mp he
    exact Run.wellFormed_entity hrows built hrun

/-- Only the categories are at stake where category lists are changed. -/
theorem WellFormed.mapCategories {built : Layout} {d : Dictionary} (hd : d.WellFormed built)
    {f : String → String → List Category → List Category}
    (hf : ∀ e v old, (∀ c ∈ old, c.WellFormed) → ∀ c ∈ f e v old, c.WellFormed) :
    (d.mapCategories f).WellFormed built := by
  have hnames := hd.namesDistinct.mapCategories f
  refine ⟨hnames.entities, ?_, ?_⟩
  · exact List.isChain_map _ |>.mpr hd.codes_change
  · intro e he
    have hvars := hnames.vars e he
    obtain ⟨e, he', rfl⟩ := List.mem_map.mp he
    obtain ⟨hcode, hcode', hpoint, hname, htag, -, hwell⟩ := hd.entities e he'
    refine ⟨hcode, hcode', hpoint, hname, ?_, hvars, ?_⟩
    · intro hkind
      obtain ⟨v, hv, hgeo⟩ := htag hkind
      exact ⟨_, List.mem_map_of_mem hv, hgeo⟩
    · intro v hv
      obtain ⟨v, hv', rfl⟩ := List.mem_map.mp hv
      have hv := hwell v hv'
      exact ⟨hv.name_ne, hv.name_trimmed, hv.tag_trimmed, hf e.name v.name _ hv.categories⟩

theorem WellFormed.attach {built : Layout} {d : Dictionary} (hd : d.WellFormed built)
    {layout : Layout} {text : String} {filled : Dictionary} {report : Report}
    (h : d.attach layout text = .ok (filled, report)) : filled.WellFormed built := by
  obtain ⟨-, rfl, -⟩ := (attach_eq_ok_iff hd.namesDistinct).mp h
  apply hd.mapCategories
  intro e v old hold c hc
  rcases CategoryMode.mem_of_mem_merge hc with hc | hc
  · exact hold c hc
  · obtain ⟨a, ha, rfl⟩ := List.mem_map.mp hc
    exact wellFormed_of_mem_inBlockLines (List.mem_filter.mp ha).1

theorem Reachable.wellFormed {built : Layout} {d : Dictionary} (h : d.Reachable built) :
    d.WellFormed built := by
  induction h with
  | declared h => exact wellFormed_of_ofRows h
  | attached hd h ih => exact ih.attach h

theorem Reachable.namesDistinct {built : Layout} {d : Dictionary} (h : d.Reachable built) :
    d.NamesDistinct :=
  h.wellFormed.namesDistinct

end Dictionary

namespace Dictionary

theorem NamesDistinct.entity?_eq_some_iff {d : Dictionary} (hd : d.NamesDistinct) {name : String}
    {e : Entity} : d.entity? name = some e ↔ e ∈ d.entities ∧ e.name = name :=
  find?_key_eq_some_iff hd.entities

theorem NamesDistinct.lookup?_eq_some_iff {d : Dictionary} (hd : d.NamesDistinct) {e : Entity}
    (he : e ∈ d.entities) {name : String} {v : Variable} :
    e.lookup? name = some v ↔ v ∈ e.vars ∧ v.name = name :=
  find?_key_eq_some_iff (hd.vars e he)

theorem NamesDistinct.categories?_eq_some_iff {d : Dictionary} (hd : d.NamesDistinct)
    {entityName name : String} {cs : List Category} :
    d.categories? entityName name = some cs ↔
      ∃ e ∈ d.entities, e.name = entityName ∧ ∃ v ∈ e.vars, v.name = name ∧ v.categories = cs := by
  simp only [categories?, Dictionary.lookup?, Option.map_eq_some_iff, Option.bind_eq_some_iff,
    hd.entity?_eq_some_iff]
  constructor
  · intro h
    obtain ⟨v, ⟨e, ⟨he, hname⟩, hv⟩, hcs⟩ := h
    obtain ⟨hmem, hvname⟩ := (hd.lookup?_eq_some_iff he).mp hv
    exact ⟨e, he, hname, v, hmem, hvname, hcs⟩
  · intro h
    obtain ⟨e, he, hname, v, hmem, hvname, hcs⟩ := h
    exact ⟨v, ⟨e, ⟨he, hname⟩, (hd.lookup?_eq_some_iff he).mpr ⟨hmem, hvname⟩⟩, hcs⟩

end Dictionary

/-- Whatever tables and feeds a dictionary has been made from, its entities, variables and
categories are well formed, and so a name that occurs finds the one entry that has it. -/
theorem reachable_dictionary_invariant {built : Layout} {d : Dictionary} (h : d.Reachable built) :
    d.WellFormed built ∧
    (∀ name e, d.entity? name = some e ↔ e ∈ d.entities ∧ e.name = name) ∧
    (∀ e ∈ d.entities, ∀ name v, e.lookup? name = some v ↔ v ∈ e.vars ∧ v.name = name) ∧
    (∀ entityName name cs, d.categories? entityName name = some cs ↔
      ∃ e ∈ d.entities, e.name = entityName ∧ ∃ v ∈ e.vars, v.name = name ∧ v.categories = cs) := by
  have hd := h.namesDistinct
  refine ⟨h.wellFormed, ?_, ?_, ?_⟩
  · exact fun name e => hd.entity?_eq_some_iff
  · exact fun e he name v => hd.lookup?_eq_some_iff he
  · exact fun entityName name cs => hd.categories?_eq_some_iff

/-- A feed of one block, with a stray line in front and a colon in a label. -/
def sexFeed : String := "9. Otro\nNombre : P02\nEntidad : PERSONA\n 1. Varón: sí\n 2. Mujer\n"

def sexCensus : Dictionary :=
  ⟨[⟨"1", "PROV", .geographic, [⟨"REDCODEN", "C", []⟩]⟩,
    ⟨"2", "PERSONA", .data, [⟨"P02", "I", [⟨"1", "Varón: sí"⟩, ⟨"2", "Mujer"⟩]⟩]⟩]⟩

theorem reachable_provinceCensus : provinceCensus.Reachable {} := by
  have h : Dictionary.ofRows {} provinceTable = .ok provinceCensus := by decide
  exact .declared h

theorem attach_sexFeed : provinceCensus.attach {} sexFeed = .ok (sexCensus, ⟨2, 1⟩) := by
  decide

theorem reachable_sexCensus : sexCensus.Reachable {} :=
  .attached reachable_provinceCensus attach_sexFeed

theorem sexCensus_invariant :
    sexCensus.Reachable {} ∧ sexCensus.WellFormed {} ∧
      sexCensus.categories? "PERSONA" "P02" = some [⟨"1", "Varón: sí"⟩, ⟨"2", "Mujer"⟩] := by
  obtain ⟨hwell, -, -, hcategories⟩ := reachable_dictionary_invariant reachable_sexCensus
  refine ⟨reachable_sexCensus, hwell, (hcategories _ _ _).mpr ?_⟩
  decide

end Census
