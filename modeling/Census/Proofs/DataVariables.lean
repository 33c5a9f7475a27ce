import Mathlib
import Census.Dictionary.Form
import Census.Proofs.DictionaryCommands
import Census.Proofs.DictionaryInvariant

/-!
Identifiers and the variables they name. An identifier is cut at its first point, so where no data
entity has a point in its name the list of identifiers says which variables can be queried, each of
them once, and a form that asks for them says the same.
-/

namespace Census

/-- The entity and the variable that an identifier names: what stands before its first point and
what stands after it. -/
def splitIdentifier (identifier : String) : Option (String × String) :=
  (Text.cut? '.' identifier.toList).map fun p => (String.ofList p.1, String.ofList p.2)

/-- The names of the variables of data entities, in dictionary order. -/
def Dictionary.dataVariables (d : Dictionary) : List (String × String) :=
  (d.entities.filter fun e => e.kind = .data).flatMap fun e => e.vars.map fun v => (e.name, v.name)

/-- No data entity has a point in its name. Variables may have points in theirs. -/
def Dictionary.PointFree (d : Dictionary) : Prop :=
  ∀ e ∈ d.entities, e.kind = .data → '.' ∉ e.name.toList

/-- What stands before the point has none, so the point put there is the first. -/
theorem splitIdentifier_identifier {entityName : String} (h : '.' ∉ entityName.toList)
    (variableName : String) :
    splitIdentifier (Dictionary.identifier entityName variableName) =
      some (entityName, variableName) := by
  have htext : (Dictionary.identifier entityName variableName).toList =
      entityName.toList ++ '.' :: variableName.toList := by
    simp [Dictionary.identifier]
  have hcut : Text.cut? '.' (Dictionary.identifier entityName variableName).toList =
      some (entityName.toList, variableName.toList) :=
    Text.cut?_eq_some_iff.mpr ⟨htext, h⟩
  rw [splitIdentifier, hcut, Option.map_some, String.ofList_toList, String.ofList_toList]

namespace Dictionary

theorem mem_dataVariables_iff {d : Dictionary} {entityName variableName : String} :
    (entityName, variableName) ∈ d.dataVariables ↔
      ∃ e ∈ d.entities, e.kind = .data ∧ e.name = entityName ∧
        ∃ v ∈ e.vars, v.name = variableName := by
  simp only [dataVariables, List.mem_flatMap, List.mem_filter, decide_eq_true_eq, List.mem_map,
    Prod.mk.injEq]
  constructor
  · intro h
    obtain ⟨e, ⟨he, hkind⟩, v, hv, hname, hvname⟩ := h
    exact ⟨e, he, hkind, hname, v, hv, hvname⟩
  · intro h
    obtain ⟨e, he, hkind, hname, v, hv, hvname⟩ := h
    exact ⟨e, ⟨he, hkind⟩, v, hv, hname, hvname⟩

theorem queryable_eq_map (d : Dictionary) :
    d.queryable = d.dataVariables.map fun p => identifier p.1 p.2 := by
  simp [queryable, dataVariables, List.map_flatMap, Function.comp_def]

/-- The identifiers are cut into the names they were made of, in the same order. -/
theorem PointFree.map_splitIdentifier {d : Dictionary} (hd : d.PointFree) :
    d.queryable.map splitIdentifier = d.dataVariables.map some := by
  rw [queryable_eq_map, List.map_map]
  apply List.map_congr_left
  intro p hp
  obtain ⟨e, he, hkind, hname, -⟩ := mem_dataVariables_iff.mp hp
  exact splitIdentifier_identifier (hname ▸ hd e he hkind) p.2

namespace NamesDistinct

variable {d : Dictionary} (hd : d.NamesDistinct)

include hd

/-- Entities differ in the first name of a pair, and the variables of one entity in the second. -/
theorem nodup_dataVariables : d.dataVariables.Nodup := by
  have hentities : (d.entities.filter fun e => e.kind = .data).Pairwise
      fun e f => e.name ≠ f.name :=
    (List.pairwise_map.mp hd.entities).filter _
  refine List.nodup_flatMap.mpr ⟨?_, hentities.imp ?_⟩
  · intro e he
    have hvars : ((e.vars.map fun v => (e.name, v.name)).map Prod.snd).Nodup := by
      rw [List.map_map]
      exact hd.vars e (List.mem_of_mem_filter he)
    exact hvars.of_map
  · intro e f hne p hp hp'
    obtain ⟨v, -, rfl⟩ := List.mem_map.mp hp
    obtain ⟨w, -, hw⟩ := List.mem_map.mp hp'
    exact hne (Prod.mk.inj hw).1.symm

theorem mem_dataVariables_iff_kind {e : Entity} (he : e ∈ d.entities) {v : Variable}
    (hv : v ∈ e.vars) : (e.name, v.name) ∈ d.dataVariables ↔ e.kind = .data := by
  rw [mem_dataVariables_iff]
  constructor
  · intro h
    obtain ⟨f, hf, hkind, hname, -⟩ := h
    obtain rfl : f = e := List.inj_on_of_nodup_map hd.entities hf he hname
    exact hkind
  · intro hkind
    exact ⟨e, he, hkind, rfl, v, hv, rfl⟩

/-- A variable is listed once or, on an area level, not at all. -/
theorem count_dataVariables {e : Entity} (he : e ∈ d.entities) {v : Variable} (hv : v ∈ e.vars) :
    d.dataVariables.count (e.name, v.name) = if e.kind = .data then 1 else 0 := by
  have hmem := hd.mem_dataVariables_iff_kind he hv
  split_ifs with hkind
  · exact List.count_eq_one_of_mem hd.nodup_dataVariables (hmem.mpr hkind)
  · exact List.count_eq_zero.mpr fun h => hkind (hmem.mp h)

end NamesDistinct

/-- An identifier that is cut again cannot stand for two variables. -/
theorem PointFree.nodup_queryable {d : Dictionary} (hpoint : d.PointFree) (hd : d.NamesDistinct) :
    d.queryable.Nodup := by
  have hsplit : (d.queryable.map splitIdentifier).Nodup := by
    rw [hpoint.map_splitIdentifier]
    exact hd.nodup_dataVariables.map (Option.some_injective _)
  exact hsplit.of_map

theorem PointFree.exists_variable {d : Dictionary} (hpoint : d.PointFree) (hd : d.NamesDistinct)
    {identifier : String} (h : identifier ∈ d.queryable) :
    ∃ e v, splitIdentifier identifier = some (e.name, v.name) ∧ d.entity? e.name = some e ∧
      e.kind = .data ∧ e.lookup? v.name = some v ∧
      d.categories? e.name v.name = some v.categories := by
  rw [queryable_eq_map, List.mem_map] at h
  obtain ⟨p, hp, rfl⟩ := h
  obtain ⟨e, he, hkind, hname, v, hv, hvname⟩ := mem_dataVariables_iff.mp hp
  have hsplit := splitIdentifier_identifier (hname ▸ hpoint e he hkind) p.2
  refine ⟨e, v, ?_, hd.entity?_eq_some_iff.mpr ⟨he, rfl⟩, hkind,
    (hd.lookup?_eq_some_iff he).mpr ⟨hv, rfl⟩,
    hd.categories?_eq_some_iff.mpr ⟨e, he, rfl, v, hv, rfl, rfl⟩⟩
  rw [hsplit, hname, hvname]

end Dictionary

/-- The identifiers of a dictionary name its data variables, as long as no data entity has a point
in its name. No identifier comes twice. Each is cut at its first point into the name of a data
entity and that of one of its variables, which has a list of categories; and in this way every
variable of a data entity is named once, in dictionary order, and no variable of an area level. A
form asks for just these identifiers, so that two dictionaries with one form have the same data
variables. -/
theorem identifiers_name_data_variables {built : Layout} {d : Dictionary} (hd : d.Reachable built)
    (hpoint : d.PointFree) :
    d.queryable.Nodup ∧
    (∀ identifier ∈ d.queryable, ∃ e v,
      splitIdentifier identifier = some (e.name, v.name) ∧ d.entity? e.name = some e ∧
        e.kind = .data ∧ e.lookup? v.name = some v ∧
        d.categories? e.name v.name = some v.categories) ∧
    d.queryable.map splitIdentifier = d.dataVariables.map some ∧
    (∀ e ∈ d.entities, ∀ v ∈ e.vars,
      (d.queryable.map splitIdentifier).count (some (e.name, v.name)) =
        if e.kind = .data then 1 else 0) ∧
    (∀ r : CategoryRequest,
      ((r.fields d.queryable).filter fun p => p.1 = "VARIABLE").map Prod.snd = d.queryable) ∧
    (∀ (d' : Dictionary) (r r' : CategoryRequest), d'.PointFree →
      r.fields d.queryable = r'.fields d'.queryable → d.dataVariables = d'.dataVariables) := by
  have hnames := hd.namesDistinct
  -- All that is said of identifiers is said of pairs of names and carried over by the cut.
  have hsplit := hpoint.map_splitIdentifier
  refine ⟨hpoint.nodup_queryable hnames, fun _ h => hpoint.exists_variable hnames h, hsplit, ?_,
    fun r => variables_of_fields r d.queryable, ?_⟩
  · intro e he v hv
    rw [hsplit, List.count_map_of_injective _ _ (Option.some_injective _)]
    exact hnames.count_dataVariables he hv
  · intro d' r r' hpoint' hfields
    have hqueryable : d.queryable = d'.queryable :=
      calc
        _ = ((r.fields d.queryable).filter fun p => p.1 = "VARIABLE").map Prod.snd :=
          (variables_of_fields r _).symm
        _ = ((r'.fields d'.queryable).filter fun p => p.1 = "VARIABLE").map Prod.snd := by
          rw [hfields]
        _ = d'.queryable := variables_of_fields r' _
    apply List.map_injective_iff.mpr (Option.some_injective _)
    rw [← hsplit, ← hpoint'.map_splitIdentifier, hqueryable]

/-- Two data entities share the name of a variable, which has a point in it, and so has the name of
the area level. -/
def dwellingTable : List Row :=
  [⟨"1.0", "AREA.1", "", ""⟩, ⟨"1.1", "AREA.1", "REDCODEN", "C"⟩, ⟨"2.0", "VIVIENDA", "", ""⟩,
    ⟨"2.1", "VIVIENDA", "P01.A", "I"⟩, ⟨"3.0", "PERSONA", "", ""⟩, ⟨"3.1", "PERSONA", "P01.A", "I"⟩]

def dwellingCensus : Dictionary :=
  ⟨[⟨"1", "AREA.1", .geographic, [⟨"REDCODEN", "C", []⟩]⟩,
    ⟨"2", "VIVIENDA", .data, [⟨"P01.A", "I", []⟩]⟩, ⟨"3", "PERSONA", .data, [⟨"P01.A", "I", []⟩]⟩]⟩

theorem dwellingCensus_identifiers :
    dwellingCensus.Reachable {} ∧ dwellingCensus.PointFree ∧
      dwellingCensus.queryable = ["VIVIENDA.P01.A", "PERSONA.P01.A"] ∧
      dwellingCensus.queryable.Nodup ∧
      dwellingCensus.queryable.map splitIdentifier =
        [some ("VIVIENDA", "P01.A"), some ("PERSONA", "P01.A")] ∧
      (dwellingCensus.queryable.map splitIdentifier).count (some ("AREA.1", "REDCODEN")) = 0 := by
  have hrows : Dictionary.ofRows {} dwellingTable = .ok dwellingCensus := by decide
  have hpoint : dwellingCensus.PointFree := by
    intro e he
    simp only [dwellingCensus, List.mem_cons, List.not_mem_nil, or_false] at he
    rcases he with rfl | rfl | rfl <;> decide
  obtain ⟨hnodup, -, hsplit, hcount, -⟩ := identifiers_name_data_variables (.declared hrows) hpoint
  have hregion := hcount ⟨"1", "AREA.1", .geographic, [⟨"REDCODEN", "C", []⟩]⟩ (by decide)
    ⟨"REDCODEN", "C", []⟩ (by decide)
  exact ⟨.declared hrows, hpoint, by decide, hnodup, hsplit, hregion⟩

/-- With a point in the name of an entity, one identifier can stand for two variables. -/
example : Dictionary.identifier "PERSONA.P01" "A" = Dictionary.identifier "PERSONA" "P01.A" := by
  decide

end Census
