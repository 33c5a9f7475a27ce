import Mathlib
import Census.Dictionary.Basic
import Census.Dictionary.Layout

/-!
Dictionaries in which names are distinct. There a change to one variable is a change of the
category lists variable by variable, and such changes leave everything but the lists alone.
-/

namespace Census

/-- No two entities share a name, and no two variables of one entity do. -/
structure Dictionary.NamesDistinct (d : Dictionary) : Prop where
  entities : (d.entities.map Entity.name).Nodup
  vars : ∀ e ∈ d.entities, (e.vars.map Variable.name).Nodup

def Dictionary.HasEntity (d : Dictionary) (entityName : String) : Prop :=
  ∃ e ∈ d.entities, e.name = entityName

/-- An entity of the one name has a variable of the other. -/
def Dictionary.Declares (d : Dictionary) (entityName variableName : String) : Prop :=
  ∃ e ∈ d.entities, e.name = entityName ∧ ∃ v ∈ e.vars, v.name = variableName

instance (d : Dictionary) (entityName : String) : Decidable (d.HasEntity entityName) :=
  inferInstanceAs (Decidable (∃ e ∈ d.entities, e.name = entityName))

instance (d : Dictionary) (entityName variableName : String) :
    Decidable (d.Declares entityName variableName) :=
  inferInstanceAs (Decidable
    (∃ e ∈ d.entities, e.name = entityName ∧ ∃ v ∈ e.vars, v.name = variableName))

def Entity.mapCategories (f : String → List Category → List Category) (e : Entity) : Entity :=
  { e with vars := e.vars.map fun v => v.updateCategories (f v.name) }

/-- Changes each category list, given the names of its entity and its variable. -/
def Dictionary.mapCategories (f : String → String → List Category → List Category)
    (d : Dictionary) : Dictionary :=
  ⟨d.entities.map fun e => e.mapCategories (f e.name)⟩

theorem updateFirst_eq_map {α : Type} (key : α → String) (k : String) (f : α → α) (as : List α)
    (h : (as.map key).Nodup) :
    updateFirst (fun a => key a == k) f as = as.map fun a => if key a = k then f a else a := by
  induction as with
  | nil => rfl
  | cons a as ih =>
    obtain ⟨hnot, hnodup⟩ := List.nodup_cons.mp h
    by_cases hk : key a = k
    · have hrest : (as.map fun b => if key b = k then f b else b) = as := by
        conv_rhs => rw [← List.map_id as]
        apply List.map_congr_left
        intro b hb
        have hne : key b ≠ k := fun he => hnot (hk ▸ he ▸ List.mem_map_of_mem hb)
        simp [hne]
      simp [updateFirst, hk, hrest]
    · simp [updateFirst, hk, ih hnodup]

theorem Entity.lookup?_mapCategories (e : Entity)
    (f : String → List Category → List Category) (variableName : String) :
    (e.mapCategories f).lookup? variableName =
      (e.lookup? variableName).map fun v => v.updateCategories (f v.name) := by
  simp [Entity.lookup?, Entity.mapCategories, List.find?_map,
    Variable.updateCategories]

namespace Dictionary

theorem declares_iff_of_entity? {d : Dictionary} {entityName : String} {e : Entity}
    (hd : d.NamesDistinct) (he : d.entity? entityName = some e) (variableName : String) :
    d.Declares entityName variableName ↔ (e.lookup? variableName).isSome := by
  have hname : e.name = entityName := by simpa using List.find?_some he
  have hmem : e ∈ d.entities := List.mem_of_find?_eq_some he
  constructor
  · intro h
    obtain ⟨e', he', hname', v, hv, hvname⟩ := h
    have heq : e' = e := List.inj_on_of_nodup_map hd.entities he' hmem (hname'.trans hname.symm)
    subst heq
    rw [Entity.lookup?, List.find?_isSome]
    exact ⟨v, hv, by simpa using hvname⟩
  · intro hsome
    rw [Entity.lookup?, List.find?_isSome] at hsome
    obtain ⟨v, hv, hvname⟩ := hsome
    exact ⟨e, hmem, hname, v, hv, by simpa using hvname⟩

theorem hasEntity_iff (d : Dictionary) (entityName : String) :
    d.HasEntity entityName ↔ (d.entity? entityName).isSome := by
  simp [HasEntity, entity?, List.find?_isSome]

theorem Declares.hasEntity {d : Dictionary} {entityName variableName : String}
    (h : d.Declares entityName variableName) : d.HasEntity entityName := by
  obtain ⟨e, he, hname, -⟩ := h
  exact ⟨e, he, hname⟩

@[simp] theorem mapCategories_id (d : Dictionary) :
    d.mapCategories (fun _ _ old => old) = d := by
  simp [mapCategories, Entity.mapCategories, Variable.updateCategories]

/-- Only what is done to the lists that are there matters. -/
theorem mapCategories_congr {d : Dictionary} {f g : String → String → List Category → List Category}
    (h : ∀ e ∈ d.entities, ∀ v ∈ e.vars,
      f e.name v.name v.categories = g e.name v.name v.categories) :
    d.mapCategories f = d.mapCategories g := by
  rw [mapCategories, mapCategories]
  congr 1
  apply List.map_congr_left
  intro e he
  rw [Entity.mapCategories, Entity.mapCategories]
  congr 1
  apply List.map_congr_left
  intro v hv
  rw [Variable.updateCategories, Variable.updateCategories, h e he v hv]

theorem mapCategories_eq_self {d : Dictionary}
    {f : String → String → List Category → List Category}
    (h : ∀ e ∈ d.entities, ∀ v ∈ e.vars, f e.name v.name v.categories = v.categories) :
    d.mapCategories f = d := by
  conv_rhs => rw [← d.mapCategories_id]
  exact mapCategories_congr h

theorem mapCategories_mapCategories (d : Dictionary)
    (f g : String → String → List Category → List Category) :
    (d.mapCategories f).mapCategories g = d.mapCategories fun e v old => g e v (f e v old) := by
  simp [mapCategories, Entity.mapCategories, Variable.updateCategories, Function.comp_def]

theorem entity?_mapCategories (d : Dictionary)
    (f : String → String → List Category → List Category) (entityName : String) :
    (d.mapCategories f).entity? entityName =
      (d.entity? entityName).map fun e => e.mapCategories (f e.name) := by
  simp [entity?, mapCategories, List.find?_map, Entity.mapCategories]

theorem NamesDistinct.mapCategories {d : Dictionary} (hd : d.NamesDistinct)
    (f : String → String → List Category → List Category) :
    (d.mapCategories f).NamesDistinct where
  entities := by
    have hnames : ((d.mapCategories f).entities.map Entity.name) = d.entities.map Entity.name := by
      simp [Dictionary.mapCategories, Entity.mapCategories]
    exact hnames ▸ hd.entities
  vars := by
    intro e he
    obtain ⟨e', he', rfl⟩ := List.mem_map.mp he
    have hnames : ((e'.mapCategories (f e'.name)).vars.map Variable.name) =
        e'.vars.map Variable.name := by
      simp [Entity.mapCategories, Variable.updateCategories]
    exact hnames ▸ hd.vars e' he'

theorem updateCategories_eq_mapCategories {d : Dictionary} (hd : d.NamesDistinct)
    (entityName variableName : String) (f : List Category → List Category) :
    d.updateCategories entityName variableName f =
      d.mapCategories fun e v old =>
        if e = entityName ∧ v = variableName then f old else old := by
  rw [updateCategories, updateFirst_eq_map Entity.name _ _ _ hd.entities, mapCategories]
  -- Entities of another name agree on both sides; in the one of that name, variables do.
  congr 1
  apply List.map_congr_left
  intro e he
  by_cases hname : e.name = entityName
  · have hvars := updateFirst_eq_map Variable.name variableName (Variable.updateCategories f)
      e.vars (hd.vars e he)
    simp only [hname, if_true, true_and, Entity.updateCategories, Entity.mapCategories, hvars,
      Variable.updateCategories]
    congr 1
    apply List.map_congr_left
    intro v _
    split_ifs <;> rfl
  · simp [hname, Entity.mapCategories, Variable.updateCategories]

end Dictionary

end Census
