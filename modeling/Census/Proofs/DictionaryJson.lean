import Mathlib
import Census.Dictionary.Catalog
import Census.Dictionary.Written
import Census.Proofs.DictionaryInvariant
import Census.Proofs.JsonOutlines

/-!
What the JSON of a dictionary tells of it: everything but the codes of entities and the type tags.
Names are distinct, so the kind of an entity can be told from the lists of names, and no record has
a key twice.
-/

namespace Census

theorem Source.declared_eq_ok_iff {source : Source} {layout : Layout} {d : Dictionary} :
    source.declared layout = .ok d ↔
      ∃ rows, source.rows = .ok rows ∧ Dictionary.ofRows layout rows = .ok d :=
  bind_eq_ok_iff

theorem Source.filled_eq_ok_iff {source : Source} {layout : Layout} {d filled : Dictionary} :
    source.filled layout d = .ok filled ↔
      ∃ text report, source.categoryText d.queryable = .ok text ∧
        d.attach layout text = .ok (filled, report) := by
  simp only [Source.filled, bind_eq_ok_iff]
  constructor
  · rintro ⟨text, htext, ⟨d', report⟩, hattach, hd'⟩
    obtain rfl : d' = filled := Except.ok.inj hd'
    exact ⟨text, report, htext, hattach⟩
  · rintro ⟨text, report, htext, hattach⟩
    exact ⟨text, htext, (filled, report), hattach, rfl⟩

theorem Source.catalog_eq_ok_iff {source : Source} {layout : Layout} {filled : Dictionary} :
    (source.catalog layout).outcome = .ok filled ↔
      ∃ d, source.declared layout = .ok d ∧ source.filled layout d = .ok filled := by
  rw [catalog]
  cases source.declared layout with
  | error err => simp
  | ok d => simp

/-- A dictionary that a table declares, or that a source gives the catalog of. -/
inductive Dictionary.Built : Dictionary → Prop
  | table {layout : Layout} {rows : List Row} {d : Dictionary} (h : ofRows layout rows = .ok d) :
    Built d
  | catalog {source : Source} {layout : Layout} {d : Dictionary}
    (h : (source.catalog layout).outcome = .ok d) : Built d

theorem Dictionary.Built.namesDistinct {d : Dictionary} (h : d.Built) : d.NamesDistinct := by
  cases h with
  | table h => exact namesDistinct_of_ofRows h
  | catalog h =>
    obtain ⟨declared, hdeclared, hfilled⟩ := Source.catalog_eq_ok_iff.mp h
    obtain ⟨rows, -, hrows⟩ := Source.declared_eq_ok_iff.mp hdeclared
    obtain ⟨text, report, -, hattach⟩ := Source.filled_eq_ok_iff.mp hfilled
    exact ((Reachable.declared hrows).attached hattach).namesDistinct

def Variable.SameRecord (v w : Variable) : Prop :=
  v.name = w.name ∧ v.categories = w.categories

/-- The entities differ at most in their codes and in the type tags of their variables. -/
structure Entity.SameRecord (e f : Entity) : Prop where
  name : e.name = f.name
  kind : e.kind = f.kind
  vars : List.Forall₂ Variable.SameRecord e.vars f.vars

def Dictionary.SameRecord (d d' : Dictionary) : Prop :=
  List.Forall₂ Entity.SameRecord d.entities d'.entities

theorem Category.toJson_injective : Function.Injective Category.toJson := by
  intro c c' h
  obtain ⟨code, label⟩ := c
  obtain ⟨code', label'⟩ := c'
  simpa [toJson, Json.texts] using h

theorem Variable.entry_eq_entry_iff {v w : Variable} : v.entry = w.entry ↔ v.SameRecord w := by
  have hcategories : v.categories.map Category.toJson = w.categories.map Category.toJson ↔
      v.categories = w.categories :=
    (List.map_injective_iff.mpr Category.toJson_injective).eq_iff
  rw [entry, entry, Prod.mk.injEq, Json.list.injEq, hcategories, SameRecord]

theorem Entity.entry_eq_entry_iff {e f : Entity} :
    e.entry = f.entry ↔ e.name = f.name ∧ List.Forall₂ Variable.SameRecord e.vars f.vars := by
  rw [entry, entry, Prod.mk.injEq, Json.record.injEq, map_eq_map_iff_forall₂]
  simp only [Variable.entry_eq_entry_iff]

theorem Dictionary.toJson_eq_toJson_iff {d d' : Dictionary} :
    d.toJson = d'.toJson ↔
      List.Forall₂ (fun e f => e.name = f.name ∧ List.Forall₂ Variable.SameRecord e.vars f.vars)
        d.entities d'.entities := by
  rw [toJson, toJson, Json.record.injEq, map_eq_map_iff_forall₂]
  simp only [Entity.entry_eq_entry_iff]

namespace Dictionary

/-- A name in the list of a kind is the name of just the one entity. -/
theorem NamesDistinct.mem_namesOf_iff {d : Dictionary} (hd : d.NamesDistinct) {e : Entity}
    (he : e ∈ d.entities) (kind : EntityKind) : e.name ∈ d.namesOf kind ↔ e.kind = kind := by
  rw [namesOf, List.mem_map]
  constructor
  · rintro ⟨f, hf, hname⟩
    obtain ⟨hmem, hkind⟩ := List.mem_filter.mp hf
    obtain rfl : f = e := List.inj_on_of_nodup_map hd.entities hmem he hname
    exact of_decide_eq_true hkind
  · intro hkind
    exact ⟨e, List.mem_filter.mpr ⟨he, decide_eq_true hkind⟩, rfl⟩

theorem SameRecord.namesOf_eq {d d' : Dictionary} (h : d.SameRecord d') (kind : EntityKind) :
    d.namesOf kind = d'.namesOf kind := by
  have hpairs : (d.entities.map fun e => (e.name, e.kind)) =
      d'.entities.map fun e => (e.name, e.kind) :=
    map_eq_map_iff_forall₂.mpr (h.imp fun e f he => Prod.ext he.name he.kind)
  have hnames (d : Dictionary) : d.namesOf kind =
      ((d.entities.map fun e => (e.name, e.kind)).filter fun p => p.2 = kind).map Prod.fst := by
    rw [List.filter_map, List.map_map]
    rfl
  rw [hnames d, hnames d', hpairs]

/-- The lists of names tell the kinds, since an entity is known by its name. -/
theorem buildJson_eq_buildJson_iff {d d' : Dictionary} (hd : d.NamesDistinct)
    (hd' : d'.NamesDistinct) : d.buildJson = d'.buildJson ↔ d.SameRecord d' := by
  have hparts : d.buildJson = d'.buildJson ↔ d.toJson = d'.toJson ∧
      d.namesOf .geographic = d'.namesOf .geographic ∧ d.namesOf .data = d'.namesOf .data := by
    have htexts : Function.Injective Json.texts := by
      intro items items' h
      simpa [Json.texts, List.map_inj_right] using h
    simp [buildJson, htexts.eq_iff]
  rw [hparts, toJson_eq_toJson_iff]
  constructor
  · rintro ⟨hentities, hgeographic, hdata⟩
    have hnames (kind : EntityKind) : d.namesOf kind = d'.namesOf kind := by
      cases kind with
      | geographic => exact hgeographic
      | data => exact hdata
    obtain ⟨hlength, hget⟩ := List.forall₂_iff_get.mp hentities
    refine List.forall₂_iff_get.mpr ⟨hlength, fun i hi hi' => ?_⟩
    obtain ⟨hname, hvars⟩ := hget i hi hi'
    have hmem : (d.entities.get ⟨i, hi⟩).name ∈ d.namesOf (d.entities.get ⟨i, hi⟩).kind :=
      (hd.mem_namesOf_iff (List.get_mem _ _) _).mpr rfl
    rw [hname, hnames] at hmem
    have hkind := (hd'.mem_namesOf_iff (List.get_mem _ _) _).mp hmem
    exact ⟨hname, hkind.symm, hvars⟩
  · intro h
    exact ⟨h.imp fun e f he => ⟨he.name, he.vars⟩, h.namesOf_eq _, h.namesOf_eq _⟩

/-- However much it holds, a dictionary is not nested too deeply to be read. -/
theorem depth_buildJson_le (d : Dictionary) : Json.depth d.buildJson ≤ Json.maxDepth := by
  have hcategory (c : Category) : Json.depth c.toJson ≤ 1 := Json.depth_texts_le _
  have hcategories (v : Variable) : Json.depth v.entry.2 ≤ 2 :=
    Nat.succ_le_succ (Json.depthItems_map_le hcategory _)
  have hvars (e : Entity) : Json.depth e.entry.2 ≤ 3 :=
    Nat.succ_le_succ (Json.depthEntries_map_le hcategories _)
  have hentities : Json.depth d.toJson ≤ 4 :=
    Nat.succ_le_succ (Json.depthEntries_map_le hvars _)
  have hnames (kind : EntityKind) := Json.depth_texts_le (d.namesOf kind)
  have hbuild : Json.depth d.buildJson ≤ 5 := by
    have hgeographic := hnames .geographic
    have hdata := hnames .data
    simp only [buildJson, Json.depth, Json.depthEntries]
    omega
  exact Nat.le_trans hbuild (by decide)

end Dictionary

/-- The entries are those of a record that stands somewhere in the outline. -/
inductive Outline.Holds : Outline → List (Option String × Outline) → Prop
  | here (entries : List (Option String × Outline)) : Holds (.record entries) entries
  | item {items : List Outline} {o : Outline} {entries : List (Option String × Outline)}
    (ho : o ∈ items) (h : Holds o entries) : Holds (.list items) entries
  | value {above : List (Option String × Outline)} {key : Option String} {o : Outline}
    {entries : List (Option String × Outline)} (ho : (key, o) ∈ above) (h : Holds o entries) :
    Holds (.record above) entries

/-- A reader that keeps one value for each key of a record, be it the first, the last or another. -/
structure KeepsOne (entries : List (Option String × Outline)) (kept : String → Option Outline) :
    Prop where
  given : ∀ key o, kept key = some o → (some key, o) ∈ entries
  known : ∀ key o, (some key, o) ∈ entries → (kept key).isSome

/-- Where no key comes twice, nothing is lost on such a reader. -/
theorem KeepsOne.eq_some_iff {entries : List (Option String × Outline)}
    {kept : String → Option Outline} (h : KeepsOne entries kept)
    (hkeys : (entries.map Prod.fst).Nodup) (key : String) (o : Outline) :
    kept key = some o ↔ (some key, o) ∈ entries := by
  constructor
  · exact h.given key o
  · intro ho
    obtain ⟨o', ho'⟩ := Option.isSome_iff_exists.mp (h.known key o ho)
    have heq := List.inj_on_of_nodup_map hkeys (h.given key o' ho') ho rfl
    rw [ho', (Prod.mk.inj heq).2]

namespace Outline

variable {entries : List (Option String × Outline)}

theorem holds_record_iff {above : List (Option String × Outline)} :
    Holds (.record above) entries ↔ entries = above ∨ ∃ e ∈ above, Holds e.2 entries := by
  constructor
  · intro h
    cases h with
    | here => exact .inl rfl
    | value ho h => exact .inr ⟨_, ho, h⟩
  · rintro (rfl | ⟨⟨key, o⟩, ho, h⟩)
    · exact .here entries
    · exact .value ho h

theorem holds_list_iff {items : List Outline} :
    Holds (.list items) entries ↔ ∃ o ∈ items, Holds o entries := by
  constructor
  · intro h
    cases h with
    | item ho h => exact ⟨_, ho, h⟩
  · rintro ⟨o, ho, h⟩
    exact .item ho h

theorem not_holds_texts (items : List String) : ¬ Holds (Json.texts items).outline entries := by
  rw [Json.outline_texts, holds_list_iff]
  rintro ⟨o, ho, h⟩
  obtain ⟨s, -, rfl⟩ := List.mem_map.mp ho
  cases h

end Outline

variable {entries : List (Option String × Outline)}

theorem nodup_entryOutlines {above : List (String × Json)} (h : (above.map Prod.fst).Nodup) :
    ((Json.entryOutlines above).map Prod.fst).Nodup := by
  have hkeys : (Json.entryOutlines above).map Prod.fst = (above.map Prod.fst).map some := by
    rw [Json.entryOutlines_eq_map, List.map_map, List.map_map]
    rfl
  rw [hkeys]
  exact h.map (Option.some_injective String)

/-- Categories are written as pairs, so no record stands in them. -/
theorem not_holds_variable (v : Variable) : ¬ v.entry.2.outline.Holds entries := by
  rw [Variable.entry, Json.outline, Json.outlines_eq_map, Outline.holds_list_iff, List.map_map]
  rintro ⟨o, ho, h⟩
  obtain ⟨c, -, rfl⟩ := List.mem_map.mp ho
  exact Outline.not_holds_texts _ h

theorem nodup_keys_entity {e : Entity} (he : (e.vars.map Variable.name).Nodup)
    (h : e.entry.2.outline.Holds entries) : (entries.map Prod.fst).Nodup := by
  rw [Entity.entry, Json.outline, Outline.holds_record_iff] at h
  rcases h with rfl | ⟨o, ho, h⟩
  · apply nodup_entryOutlines
    rwa [List.map_map]
  · obtain ⟨p, hp, rfl⟩ := Json.mem_entryOutlines ho
    obtain ⟨v, -, rfl⟩ := List.mem_map.mp hp
    exact absurd h (not_holds_variable v)

/-- Names serve as keys at two levels, and at both they are distinct. -/
theorem Dictionary.NamesDistinct.nodup_keys {d : Dictionary} (hd : d.NamesDistinct)
    (h : d.buildJson.outline.Holds entries) : (entries.map Prod.fst).Nodup := by
  have hdictionary (h : d.toJson.outline.Holds entries) : (entries.map Prod.fst).Nodup := by
    rw [toJson, Json.outline, Outline.holds_record_iff] at h
    rcases h with rfl | ⟨o, ho, h⟩
    · apply nodup_entryOutlines
      rw [List.map_map]
      exact hd.entities
    · obtain ⟨p, hp, rfl⟩ := Json.mem_entryOutlines ho
      obtain ⟨e, he, rfl⟩ := List.mem_map.mp hp
      exact nodup_keys_entity (hd.vars e he) h
  have hparts : ["dictionary", "geo_entities", "data_entities"].Nodup := by decide
  rw [buildJson, Json.outline, Outline.holds_record_iff] at h
  rcases h with rfl | ⟨o, ho, h⟩
  · exact nodup_entryOutlines hparts
  · obtain ⟨p, hp, rfl⟩ := Json.mem_entryOutlines ho
    simp only [List.mem_cons, List.not_mem_nil, or_false] at hp
    rcases hp with rfl | rfl | rfl
    · exact hdictionary h
    · exact absurd h (Outline.not_holds_texts _)
    · exact absurd h (Outline.not_holds_texts _)

/-- The JSON of a dictionary is faithful. Two dictionaries have one text, on one line or over
several, just when they have the same entities and variables in the same order with the same names,
kinds and categories. No record in the text has a key twice, so a reader that keeps one value for
each key keeps all of them. -/
theorem build_json_is_faithful {d d' : Dictionary} (hd : d.Built) (hd' : d'.Built) :
    (d.buildJson.compact = d'.buildJson.compact ↔ d.SameRecord d') ∧
    (d.buildJson.pretty = d'.buildJson.pretty ↔ d.SameRecord d') ∧
    ∃ o, Json.read d.buildJson.compact = ⟨o, true⟩ ∧ Json.read d.buildJson.pretty = ⟨o, true⟩ ∧
      ∀ entries, o.Holds entries →
        (entries.map Prod.fst).Nodup ∧
        ∀ kept, KeepsOne entries kept →
          ∀ key value, kept key = some value ↔ (some key, value) ∈ entries := by
  have hnames := hd.namesDistinct
  have hsame := Dictionary.buildJson_eq_buildJson_iff hnames hd'.namesDistinct
  have hdepth := d.depth_buildJson_le
  have hdepth' := d'.depth_buildJson_le
  refine ⟨?_, ?_, d.buildJson.outline, ?_, ?_, ?_⟩
  · rw [Json.compact_eq_compact_iff hdepth hdepth', hsame]
  · rw [Json.pretty_eq_pretty_iff hdepth hdepth', hsame]
  · exact Json.read_compact hdepth
  · exact Json.read_pretty hdepth
  · intro entries h
    have hkeys := hnames.nodup_keys h
    exact ⟨hkeys, fun kept hkept => hkept.eq_some_iff hkeys⟩

/-- A table of the same census with other codes and another type tag. -/
def recodedTable : List Row :=
  [⟨"07.0", "PROV", "", ""⟩, ⟨"07.1", "PROV", "REDCODEN", "C"⟩, ⟨"09.0", "PERSONA", "", ""⟩,
    ⟨"09.1", "PERSONA", "P02", "A"⟩]

def recodedCensus : Dictionary :=
  ⟨[⟨"07", "PROV", .geographic, [⟨"REDCODEN", "C", []⟩]⟩,
    ⟨"09", "PERSONA", .data, [⟨"P02", "A", [⟨"1", "Varón: sí"⟩, ⟨"2", "Mujer"⟩]⟩]⟩]⟩

theorem recodedCensus_has_same_json :
    sexCensus.Built ∧ recodedCensus.Built ∧ recodedCensus ≠ sexCensus ∧
      recodedCensus.buildJson.compact = sexCensus.buildJson.compact := by
  have hsex : (Source.catalog ⟨.ok provinceTable, fun _ => .ok sexFeed⟩ {}).outcome =
      .ok sexCensus := by
    decide
  have hrecoded : (Source.catalog ⟨.ok recodedTable, fun _ => .ok sexFeed⟩ {}).outcome =
      .ok recodedCensus := by
    decide
  have hsame : recodedCensus.SameRecord sexCensus :=
    .cons ⟨rfl, rfl, .cons ⟨rfl, rfl⟩ .nil⟩ (.cons ⟨rfl, rfl, .cons ⟨rfl, rfl⟩ .nil⟩ .nil)
  obtain ⟨hcompact, -, -⟩ := build_json_is_faithful (.catalog hrecoded) (.catalog hsex)
  exact ⟨.catalog hsex, .catalog hrecoded, by decide, hcompact.mpr hsame⟩

end Census
