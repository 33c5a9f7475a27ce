import Mathlib
import Census.Proofs.DictionaryInvariant

/-!
Feeds attached one after another. Whether a feed is accepted and what it reports depends on the
names of a dictionary alone, so earlier feeds matter only through the lists they leave.
-/

namespace Census

/-- The categories that a feed gives to one variable, in the order of the text. -/
def categoriesGiven (layout : Layout) (text entityName variableName : String) : List Category :=
  categoriesFor (inBlockLines layout text) entityName variableName

namespace CategoryMode

theorem nil_merge (mode : CategoryMode) (new : List Category) : mode.merge [] new = new := by
  cases mode with
  | append => rfl
  | replace =>
    rw [merge]
    split_ifs with hnew
    · exact hnew.symm
    · rfl

theorem replace_merge_merge (old first second : List Category) :
    replace.merge (replace.merge old first) second =
      if second ≠ [] then second else if first ≠ [] then first else old := by
  simp only [merge, ite_not]

theorem replace_merge_again (old new : List Category) :
    replace.merge (replace.merge old new) new = replace.merge old new := by
  rw [replace_merge_merge, merge]
  by_cases hnew : new = [] <;> simp [hnew]

theorem merge_comm_of_disjoint (mode : CategoryMode) {first second : List Category}
    (h : first = [] ∨ second = []) (old : List Category) :
    mode.merge (mode.merge old first) second = mode.merge (mode.merge old second) first := by
  rcases h with rfl | rfl
  · rw [merge_nil, merge_nil]
  · rw [merge_nil, merge_nil]

end CategoryMode

namespace Dictionary

theorem declares_mapCategories_iff (d : Dictionary)
    (f : String → String → List Category → List Category) (entityName variableName : String) :
    (d.mapCategories f).Declares entityName variableName ↔ d.Declares entityName variableName := by
  simp [Declares, mapCategories, Entity.mapCategories, Variable.updateCategories]

/-- A feed that is accepted is accepted whatever lists the variables have, with the same report. -/
theorem attach_mapCategories {d : Dictionary} (hd : d.NamesDistinct) {layout : Layout}
    {text : String} {filled : Dictionary} {report : Report}
    (h : d.attach layout text = .ok (filled, report))
    (f : String → String → List Category → List Category) :
    (d.mapCategories f).attach layout text =
      .ok (d.mapCategories fun e v old =>
        layout.categoryMode.merge (f e v old) (categoriesGiven layout text e v), report) := by
  obtain ⟨hall, -, hreport⟩ := (attach_eq_ok_iff hd).mp h
  refine (attach_eq_ok_iff (hd.mapCategories f)).mpr ⟨?_, ?_, hreport⟩
  · intro a ha
    exact (declares_mapCategories_iff d f _ _).mpr (hall a ha)
  · rw [Dictionary.filled, mapCategories_mapCategories]
    rfl

/-- The categories of a dictionary play no part in a refusal. -/
theorem refusal?_mapCategories (d : Dictionary)
    (f : String → String → List Category → List Category) (a : Attachment) :
    (d.mapCategories f).refusal? a = d.refusal? a := by
  have hentity : (d.mapCategories f).HasEntity a.entityName ↔ d.HasEntity a.entityName := by
    rw [hasEntity_iff, hasEntity_iff, entity?_mapCategories, Option.isSome_map]
  simp only [refusal?, declares_mapCategories_iff, hentity]

/-- A feed that is refused is refused whatever lists the variables have. -/
theorem attach_mapCategories_eq_error {d : Dictionary} (hd : d.NamesDistinct) {layout : Layout}
    {text : String} {err : DictionaryError} (h : d.attach layout text = .error err)
    (f : String → String → List Category → List Category) :
    (d.mapCategories f).attach layout text = .error err := by
  apply (attach_eq_error_iff (hd.mapCategories f)).mpr
  simp only [declares_mapCategories_iff, refusal?_mapCategories]
  exact (attach_eq_error_iff hd).mp h

end Dictionary

/-- Two feeds that a dictionary accepts are accepted in either order, each with the report it has
alone. When lists are replaced, the later feed counts for the variables it has lines for and the
earlier one for the rest, so that replaying a feed changes nothing; otherwise the lines of both
are added. The order is immaterial when no variable has lines in both. -/
theorem feeds_compose {built : Layout} {d : Dictionary} (hd : d.Reachable built) (layout : Layout)
    {first second : String} {d₁ d₂ : Dictionary} {report₁ report₂ : Report}
    (h₁ : d.attach layout first = .ok (d₁, report₁))
    (h₂ : d.attach layout second = .ok (d₂, report₂)) :
    ∃ d₁₂ d₂₁,
      d₁.attach layout second = .ok (d₁₂, report₂) ∧
      d₂.attach layout first = .ok (d₂₁, report₁) ∧
      (layout.categoryMode = .replace →
        d₁₂ = d.mapCategories (fun e v old =>
          if categoriesGiven layout second e v ≠ [] then categoriesGiven layout second e v
          else if categoriesGiven layout first e v ≠ [] then categoriesGiven layout first e v
          else old) ∧
        d₁.attach layout first = .ok (d₁, report₁)) ∧
      (layout.categoryMode = .append →
        d₁₂ = d.mapCategories fun e v old =>
          old ++ categoriesGiven layout first e v ++ categoriesGiven layout second e v) ∧
      ((∀ e v, categoriesGiven layout first e v = [] ∨ categoriesGiven layout second e v = []) →
        d₁₂ = d₂₁) := by
  have hdistinct := hd.namesDistinct
  obtain ⟨-, rfl, -⟩ := (Dictionary.attach_eq_ok_iff hdistinct).mp h₁
  obtain ⟨-, rfl, -⟩ := (Dictionary.attach_eq_ok_iff hdistinct).mp h₂
  refine ⟨_, _, Dictionary.attach_mapCategories hdistinct h₂ _,
    Dictionary.attach_mapCategories hdistinct h₁ _, ?_, ?_, ?_⟩
  · intro hmode
    refine ⟨?_, ?_⟩
    · simp only [hmode, CategoryMode.replace_merge_merge]
      rfl
    · have hagain := Dictionary.attach_mapCategories hdistinct h₁ fun e v old =>
        layout.categoryMode.merge old (categoriesGiven layout first e v)
      simp only [hmode, CategoryMode.replace_merge_again] at hagain
      rw [Dictionary.filled, hmode]
      exact hagain
  · intro hmode
    simp only [hmode, CategoryMode.merge]
    rfl
  · intro hdisjoint
    congr 1
    funext e v old
    exact CategoryMode.merge_comm_of_disjoint _ (hdisjoint e v) old

/-- A feed for an area level, with its header fields the other way round. -/
def regionFeed : String := "Entidad : PROV\nNombre : REDCODEN\n01. Norte\n02. Sur\n"

def regionCensus : Dictionary :=
  ⟨[⟨"1", "PROV", .geographic, [⟨"REDCODEN", "C", [⟨"01", "Norte"⟩, ⟨"02", "Sur"⟩]⟩]⟩,
    ⟨"2", "PERSONA", .data, [⟨"P02", "I", []⟩]⟩]⟩

theorem attach_regionFeed : provinceCensus.attach {} regionFeed = .ok (regionCensus, ⟨2, 0⟩) := by
  decide

theorem provinceCensus_feeds_compose :
    provinceCensus.Reachable {} ∧
      provinceCensus.attach {} sexFeed = .ok (sexCensus, ⟨2, 1⟩) ∧
      provinceCensus.attach {} regionFeed = .ok (regionCensus, ⟨2, 0⟩) ∧
      sexCensus.attach {} sexFeed = .ok (sexCensus, ⟨2, 1⟩) ∧
      ∃ both, sexCensus.attach {} regionFeed = .ok (both, ⟨2, 0⟩) ∧
        regionCensus.attach {} sexFeed = .ok (both, ⟨2, 1⟩) := by
  obtain ⟨both, both', hsex, hregion, hreplace, -, hcomm⟩ :=
    feeds_compose reachable_provinceCensus {} attach_sexFeed attach_regionFeed
  have hsexLines : inBlockLines {} sexFeed =
      [⟨4, "PERSONA", "P02", ⟨"1", "Varón: sí"⟩⟩, ⟨5, "PERSONA", "P02", ⟨"2", "Mujer"⟩⟩] := by
    decide
  have hregionLines : inBlockLines {} regionFeed =
      [⟨3, "PROV", "REDCODEN", ⟨"01", "Norte"⟩⟩, ⟨4, "PROV", "REDCODEN", ⟨"02", "Sur"⟩⟩] := by
    decide
  have hdisjoint (e v : String) :
      categoriesGiven {} sexFeed e v = [] ∨ categoriesGiven {} regionFeed e v = [] := by
    by_cases he : e = "PERSONA"
    · right
      simp [categoriesGiven, hregionLines, categoriesFor, Attachment.Names, he]
    · left
      simp [categoriesGiven, hsexLines, categoriesFor, Attachment.Names, Ne.symm he]
  obtain rfl := hcomm hdisjoint
  exact ⟨reachable_provinceCensus, attach_sexFeed, attach_regionFeed, (hreplace rfl).2, both, hsex,
    hregion⟩

end Census
