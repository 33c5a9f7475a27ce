import Mathlib
import Census.Proofs.QueryNormalForm

/-!
Blank identifiers in tables. The area level, the variable of a counter and that of a median are
looked at before a query is written; of the variables of an area list only the number is, so those
can be blank, and then they stand blank in the table.
-/

namespace Census

theorem Text.isBlankText_append (s t : String) :
    isBlankText (s ++ t) = (isBlankText s && isBlankText t) := by
  rw [isBlankText, String.toList_append, List.all_append, isBlankText, isBlankText]

namespace Query

theorem isBlankText_areaNameVariable (areaLevel : String) :
    Text.isBlankText (areaNameVariable areaLevel) = false := by
  have hname : Text.isBlankText ".NOM" = false := by decide
  rw [areaNameVariable, Text.isBlankText_append, Text.isBlankText_append, hname, Bool.and_false,
    Bool.false_and]

theorem isBlankText_counterVariable (areaLevel : String) :
    Text.isBlankText (counterVariable areaLevel) = false := by
  have hcounter : Text.isBlankText ".COUNTER" = false := by decide
  rw [counterVariable, Text.isBlankText_append, hcounter, Bool.and_false]

/-- What an area table puts in front of its variables is not blank. -/
theorem mem_of_blank_areaSubject {areaLevel : String}
    (hlevel : Text.isBlankText areaLevel = false) {identifiers : List String} {named : Bool}
    {x : String} (hx : x ∈ (areaSubject areaLevel identifiers named).texts)
    (hblank : Text.isBlankText x = true) : x ∈ identifiers := by
  rw [areaSubject, Subject.texts, List.mem_cons, List.mem_append] at hx
  rcases hx with rfl | hname | hx
  · rw [hlevel] at hblank
    cases hblank
  · cases named with
    | false => cases hname
    | true =>
      obtain rfl := List.mem_singleton.mp hname
      rw [isBlankText_areaNameVariable] at hblank
      cases hblank
  · exact hx

/-- A blank identifier of a table is a variable that an area list was given. -/
theorem Request.exists_areaList_of_blank {r : Request} {d : Document} (h : r.document = .ok d)
    {x : String} (hx : x ∈ d.table.subject.texts) (hblank : Text.isBlankText x = true) :
    ∃ q, r = .areaList q ∧ x ∈ q.identifiers := by
  cases r with
  | areaList q =>
    obtain ⟨hlevel, -, rfl⟩ := AreaListRequest.document_eq_ok_iff.mp h
    exact ⟨q, rfl, mem_of_blank_areaSubject hlevel hx hblank⟩
  | counter q =>
    obtain ⟨hlevel, -, rfl⟩ := CounterRequest.document_eq_ok_iff.mp h
    have hcounter := List.mem_singleton.mp (mem_of_blank_areaSubject hlevel hx hblank)
    rw [hcounter, isBlankText_counterVariable] at hblank
    cases hblank
  | median q =>
    obtain ⟨hname, rfl⟩ := MedianRequest.document_eq_ok_iff.mp h
    rw [List.mem_singleton.mp hx, hname] at hblank
    cases hblank
  | reserved r => cases h

/-- Every variable given is listed, blank or not. -/
theorem AreaListRequest.mem_texts_of_document {q : AreaListRequest} {d : Document}
    (h : q.document = .ok d) {x : String} (hx : x ∈ q.identifiers) :
    x ∈ d.table.subject.texts := by
  obtain ⟨-, -, rfl⟩ := document_eq_ok_iff.mp h
  exact List.mem_cons_of_mem _ (List.mem_append_right _ hx)

/-- Blank identifiers only get into a table as variables of an area list, and there all of them do:
the table is free of them just when the variables given are. -/
theorem blank_identifiers_are_given_variables {r : Request} {d : Document}
    (h : r.document = .ok d) :
    (∀ x ∈ d.table.subject.texts, Text.isBlankText x = true →
      ∃ q, r = .areaList q ∧ x ∈ q.identifiers) ∧
    ((∀ x ∈ d.table.subject.texts, Text.isBlankText x = false) ↔
      ∀ q, r = .areaList q → ∀ x ∈ q.identifiers, Text.isBlankText x = false) := by
  refine ⟨fun x hx hblank => Request.exists_areaList_of_blank h hx hblank, ?_, ?_⟩
  · rintro hfree q rfl x hx
    exact hfree x (AreaListRequest.mem_texts_of_document h hx)
  · intro hfree x hx
    by_contra hnot
    obtain ⟨q, hq, hgiven⟩ :=
      Request.exists_areaList_of_blank h hx (Bool.eq_true_of_not_eq_false hnot)
    exact hnot (hfree q hq x hgiven)

/-- A variable of one no-break space behind another one. -/
def spacedVariables : Request :=
  .areaList {
    areaLevel := "PROV"
    identifiers := ["PERSONA.P02", "\u00a0"]
    includeAreaName := true }

theorem spacedVariables_list_a_blank :
    ∃ d, spacedVariables.document = .ok d ∧
      ¬ ∀ x ∈ d.table.subject.texts, Text.isBlankText x = false := by
  obtain ⟨d, hd⟩ : ∃ d, spacedVariables.document = .ok d := ⟨_, rfl⟩
  refine ⟨d, hd, fun hfree => ?_⟩
  have hgiven := (blank_identifiers_are_given_variables hd).2.mp hfree _ rfl "\u00a0" (by simp)
  exact absurd hgiven (by decide)

/-- A blank stands for the only variable of an area list, which a median refuses. -/
theorem blank_variable_is_listed :
    (Request.areaList { areaLevel := "PROV", identifiers := [" "] }).text =
        .ok "RUNDEF Job\n\nTABLE TABLE1\n    AS AREALIST\n    OF PROV,  " ∧
      (∃ d, (Request.areaList { areaLevel := "PROV", identifiers := [" "] }).document = .ok d ∧
        " " ∈ d.table.subject.texts ∧ Text.isBlankText " " = true) ∧
      (Request.median { variableName := " " }).document = .error .emptyVariables := by
  refine ⟨by decide, ⟨_, rfl, by decide, by decide⟩, by decide⟩

end Query

end Census
