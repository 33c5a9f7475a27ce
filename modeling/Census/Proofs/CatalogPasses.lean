import Mathlib
import Census.Proofs.DictionaryCommands

/-!
A full catalog as its two passes. The rows decide the dictionary and the one question that is put to
the source; the answer decides the categories and nothing else.
-/

namespace Census

/-- A run that notes down the questions put to a source, and keeps its notes when it fails. -/
abbrev Noted (α : Type) : Type :=
  ExceptT DictionaryError (StateM (List (List String))) α

namespace Noted

variable {α β : Type}

/-- What a run comes to, and the questions noted by then, those noted before it included. -/
def outcome (run : Noted α) (asked : List (List String)) :
    Except DictionaryError α × List (List String) :=
  run.run.run asked

theorem outcome_lift_bind (x : Except DictionaryError α) (next : α → Noted β)
    (asked : List (List String)) :
    outcome (liftM x >>= next) asked =
      match x with
      | .error err => (.error err, asked)
      | .ok a => (next a).outcome asked := by
  cases x <;> rfl

end Noted

namespace Source

variable (source : Source) (layout : Layout)

/-- Asks for the feed of these identifiers. -/
def ask (identifiers : List String) : Noted String := do
  modify fun asked => asked ++ [identifiers]
  source.categoryText identifiers

/-- The run for a catalog with every question noted. -/
def notedCatalog : Noted Dictionary := do
  let d ← source.declared layout
  let text ← source.ask d.queryable
  let (filled, _) ← d.attach layout text
  return filled

theorem outcome_ask_bind {α : Type} (identifiers : List String) (next : String → Noted α)
    (asked : List (List String)) :
    (source.ask identifiers >>= next).outcome asked =
      match source.categoryText identifiers with
      | .error err => (.error err, asked ++ [identifiers])
      | .ok text => (next text).outcome (asked ++ [identifiers]) := by
  rw [ask]
  cases source.categoryText identifiers <;> rfl

/-- The notes of the run are the variables that the catalog says it has asked for. -/
theorem outcome_notedCatalog (asked : List (List String)) :
    (source.notedCatalog layout).outcome asked =
      ((source.catalog layout).outcome, asked ++ (source.catalog layout).asked.toList) := by
  rw [notedCatalog, Noted.outcome_lift_bind, catalog]
  cases source.declared layout with
  | error err => exact Prod.ext rfl (List.append_nil asked).symm
  | ok d =>
    simp only [outcome_ask_bind, filled]
    cases source.categoryText d.queryable with
    | error err => rfl
    | ok text =>
      simp only [bind, Except.bind]
      cases d.attach layout text <;> rfl

variable {source layout}

theorem catalog_of_declared_eq_error {err : DictionaryError}
    (h : source.declared layout = .error err) : source.catalog layout = ⟨none, .error err⟩ := by
  rw [catalog, h]

theorem catalog_of_declared {d : Dictionary} (h : source.declared layout = .ok d) :
    source.catalog layout = ⟨some d.queryable, source.filled layout d⟩ := by
  rw [catalog, h]

theorem declared_of_rows {rows : List Row} (h : source.rows = .ok rows) :
    source.declared layout = Dictionary.ofRows layout rows := by
  rw [declared, h]
  rfl

theorem filled_of_text {d : Dictionary} {text : String}
    (h : source.categoryText d.queryable = .ok text) :
    source.filled layout d = (d.attach layout text).map Prod.fst := by
  rw [filled, h]
  change (d.attach layout text).bind _ = _
  cases d.attach layout text <;> rfl

end Source

namespace Dictionary

/-- What can be queried is a matter of names. -/
theorem queryable_of_attach {d filled : Dictionary} (hd : d.NamesDistinct) {layout : Layout}
    {text : String} {report : Report} (h : d.attach layout text = .ok (filled, report)) :
    filled.queryable = d.queryable := by
  have hfilled : filled.NamesDistinct := by
    obtain ⟨-, rfl, -⟩ := (attach_eq_ok_iff hd).mp h
    exact hd.mapCategories _
  calc
    _ = filled.names.identifiers := hfilled.identifiers_names.symm
    _ = d.names.identifiers := by rw [names_of_attach hd h]
    _ = d.queryable := hd.identifiers_names

/-- In a dictionary without categories each variable gets what the feed gives it and no more. -/
theorem attach_of_uncategorised {d filled : Dictionary} (hd : d.NamesDistinct)
    (hnew : d.Uncategorised) {layout : Layout} {text : String} {report : Report}
    (h : d.attach layout text = .ok (filled, report)) :
    filled = d.mapCategories fun e v _ => categoriesGiven layout text e v := by
  obtain ⟨-, rfl, -⟩ := (attach_eq_ok_iff hd).mp h
  exact filled_of_uncategorised hnew _ _

end Dictionary

/-- A catalog is its two passes. When the rows are not given, or declare no dictionary, it fails as
they do and the source is asked for nothing. Otherwise it asks once, for the variables of the
declared dictionary that can be queried, and fails as the answer does or as the attaching of it
does. When nothing fails, the entities are those declared, with the same variables in the same
order, the same lists of names by kind and the same identifiers, and each variable has just the
categories that the feed gives it. Noting down each question as it is put, one finds these questions
and no others. -/
theorem catalog_is_two_passes (source : Source) (layout : Layout) :
    (∀ err, source.rows = .error err → source.catalog layout = ⟨none, .error err⟩) ∧
    (∀ rows err, source.rows = .ok rows → Dictionary.ofRows layout rows = .error err →
      source.catalog layout = ⟨none, .error err⟩) ∧
    (∀ rows d, source.rows = .ok rows → Dictionary.ofRows layout rows = .ok d →
      (source.catalog layout).asked = some d.queryable ∧
      (∀ err, source.categoryText d.queryable = .error err →
        (source.catalog layout).outcome = .error err) ∧
      (∀ text err, source.categoryText d.queryable = .ok text →
        d.attach layout text = .error err → (source.catalog layout).outcome = .error err) ∧
      (∀ text filled report, source.categoryText d.queryable = .ok text →
        d.attach layout text = .ok (filled, report) →
        (source.catalog layout).outcome = .ok filled ∧
        filled.entities = d.entities.map (fun e => { e with
          vars := e.vars.map fun v => { v with
            categories := categoriesGiven layout text e.name v.name } }) ∧
        (∀ kind, filled.namesOf kind = d.namesOf kind) ∧ filled.queryable = d.queryable)) ∧
    (∀ asked, (source.notedCatalog layout).outcome asked =
      ((source.catalog layout).outcome, asked ++ (source.catalog layout).asked.toList)) := by
  refine ⟨?_, ?_, ?_, source.outcome_notedCatalog layout⟩
  · intro err hrows
    apply Source.catalog_of_declared_eq_error
    rw [Source.declared, hrows]
    rfl
  · intro rows err hrows hd
    apply Source.catalog_of_declared_eq_error
    rw [Source.declared_of_rows hrows, hd]
  · intro rows d hrows hd
    have hdistinct := Dictionary.namesDistinct_of_ofRows hd
    have hnew := Dictionary.uncategorised_of_ofRows hd
    have hcatalog := Source.catalog_of_declared ((Source.declared_of_rows hrows).trans hd)
    rw [hcatalog]
    refine ⟨rfl, ?_, ?_, ?_⟩
    · intro err htext
      change source.filled layout d = _
      rw [Source.filled, htext]
      rfl
    · intro text err htext hattach
      change source.filled layout d = _
      rw [Source.filled_of_text htext, hattach]
      rfl
    · intro text filled report htext hattach
      have hfilled := Source.filled_eq_ok_iff.mpr ⟨text, report, htext, hattach⟩
      have hqueryable := Dictionary.queryable_of_attach hdistinct hattach
      obtain rfl := Dictionary.attach_of_uncategorised hdistinct hnew hattach
      exact ⟨hfilled, rfl, d.namesOf_mapCategories _, hqueryable⟩

/-- The question is put before it shows that there is no answer. -/
example : Source.catalog ⟨.ok provinceTable, fun _ => .error (.source "offline")⟩ {} =
    ⟨some ["PERSONA.P02"], .error (.source "offline")⟩ := rfl

end Census
