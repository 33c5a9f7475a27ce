import Mathlib
import Census.Proofs.CategoryLists
import Census.Proofs.ReadLines

/-!
What attaching a feed comes to: the first attachment that the dictionary refuses decides, and
without one each variable keeps or gains categories by the lines that name it.
-/

namespace Census

def Attachment.Names (a : Attachment) (entityName variableName : String) : Prop :=
  a.entityName = entityName ∧ a.variableName = variableName

instance (a : Attachment) (entityName variableName : String) :
    Decidable (a.Names entityName variableName) :=
  inferInstanceAs (Decidable (_ ∧ _))

/-- The categories that attachments give to one variable, in order. -/
def categoriesFor (attachments : List Attachment) (entityName variableName : String) :
    List Category :=
  (attachments.filter fun a => a.Names entityName variableName).map Attachment.category

/-- A list of categories after a feed has given it some more. -/
def CategoryMode.merge : CategoryMode → List Category → List Category → List Category
  | append, old, new => old ++ new
  | replace, old, new => if new = [] then old else new

/-- The dictionary with the categories of some attachments. -/
def Dictionary.filled (mode : CategoryMode) (attachments : List Attachment) (d : Dictionary) :
    Dictionary :=
  d.mapCategories fun e v old => mode.merge old (categoriesFor attachments e v)

/-- Why a dictionary refuses an attachment, if it does. -/
def Dictionary.refusal? (d : Dictionary) (a : Attachment) : Option DictionaryError :=
  if d.Declares a.entityName a.variableName then none
  else if d.HasEntity a.entityName then
    some (.unknownVariable a.entityName a.variableName a.line)
  else some (.unknownEntity a.entityName a.line)

theorem CategoryMode.merge_nil (mode : CategoryMode) (old : List Category) :
    mode.merge old [] = old := by
  cases mode <;> simp [merge]

theorem CategoryMode.merge_concat (mode : CategoryMode) (old new : List Category) (c : Category) :
    mode.merge old (new ++ [c]) =
      (if mode = .replace ∧ new = [] then [] else mode.merge old new) ++ [c] := by
  cases mode with
  | append => simp [merge]
  | replace => by_cases h : new = [] <;> simp [merge, h]

theorem categoriesFor_append (as as' : List Attachment) (entityName variableName : String) :
    categoriesFor (as ++ as') entityName variableName =
      categoriesFor as entityName variableName ++ categoriesFor as' entityName variableName := by
  simp [categoriesFor]

theorem categoriesFor_concat (attachments : List Attachment) (a : Attachment)
    (entityName variableName : String) :
    categoriesFor (attachments ++ [a]) entityName variableName =
      categoriesFor attachments entityName variableName ++
        if a.Names entityName variableName then [a.category] else [] := by
  have hlast : categoriesFor [a] entityName variableName =
      if a.Names entityName variableName then [a.category] else [] := by
    by_cases h : a.Names entityName variableName <;> simp [categoriesFor, h]
  rw [categoriesFor_append, hlast]

theorem categoriesFor_eq_nil_iff (attachments : List Attachment)
    (entityName variableName : String) :
    categoriesFor attachments entityName variableName = [] ↔
      (entityName, variableName) ∉ attachments.map fun a => (a.entityName, a.variableName) := by
  rw [categoriesFor, List.map_eq_nil_iff, List.filter_eq_nil_iff]
  simp only [decide_eq_true_eq]
  simp only [Attachment.Names, List.mem_map, Prod.mk.injEq, not_exists, not_and]

theorem Dictionary.filled_nil (mode : CategoryMode) (d : Dictionary) : d.filled mode [] = d := by
  simp [filled, categoriesFor, CategoryMode.merge_nil]

/-- One more category goes to the end of what the earlier lines of the feed gave, and takes the
place of the old list when there are none and the mode is to replace. -/
theorem Dictionary.filled_concat {d : Dictionary} (hd : d.NamesDistinct) (mode : CategoryMode)
    (done : List Attachment) (a : Attachment) :
    d.filled mode (done ++ [a]) =
      (d.filled mode done).updateCategories a.entityName a.variableName fun old =>
        (if mode = .replace ∧ categoriesFor done a.entityName a.variableName = []
          then [] else old) ++ [a.category] := by
  have hdone : (d.filled mode done).NamesDistinct := hd.mapCategories _
  rw [updateCategories_eq_mapCategories hdone, filled, filled, mapCategories_mapCategories]
  congr 1
  funext e v old
  rw [categoriesFor_concat]
  by_cases hname : a.Names e v
  · obtain ⟨rfl, rfl⟩ := hname
    simp only [Attachment.Names, and_self, if_true, CategoryMode.merge_concat]
  · have hother : ¬ (e = a.entityName ∧ v = a.variableName) :=
      fun h => hname ⟨h.1.symm, h.2.symm⟩
    simp only [hname, if_false, List.append_nil, hother]

namespace Attaching

/-- The state in which some attachments and some skipped lines leave a dictionary. -/
def reached (mode : CategoryMode) (d : Dictionary) (done : List Attachment) (skipped : Nat) :
    Attaching where
  dictionary := d.filled mode done
  report := ⟨done.length, skipped⟩
  touched := (done.map fun a => (a.entityName, a.variableName)).reverse

theorem reached_nil (mode : CategoryMode) (d : Dictionary) : reached mode d [] 0 = ⟨d, {}, []⟩ := by
  simp [reached, Dictionary.filled_nil]

theorem not_mem_touched_reached_iff (mode : CategoryMode) (d : Dictionary)
    (done : List Attachment) (skipped : Nat) (entityName variableName : String) :
    (entityName, variableName) ∉ (reached mode d done skipped).touched ↔
      categoriesFor done entityName variableName = [] := by
  rw [categoriesFor_eq_nil_iff, reached, List.mem_reverse]

theorem attach_reached {d : Dictionary} (hd : d.NamesDistinct) (mode : CategoryMode)
    (done : List Attachment) (skipped : Nat) (a : Attachment) :
    (reached mode d done skipped).attach mode a =
      match d.refusal? a with
      | some err => .error err
      | none => .ok (reached mode d (done ++ [a]) skipped) := by
  have hentity : (reached mode d done skipped).dictionary.entity? a.entityName =
      (d.entity? a.entityName).map fun e => e.mapCategories fun v old =>
        mode.merge old (categoriesFor done e.name v) :=
    Dictionary.entity?_mapCategories d _ a.entityName
  cases he : d.entity? a.entityName with
  | none =>
    have hno : ¬ d.HasEntity a.entityName := by simp [Dictionary.hasEntity_iff, he]
    have hnot : ¬ d.Declares a.entityName a.variableName := fun h => hno h.hasEntity
    simp [attach, hentity, he, Dictionary.refusal?, hno, hnot]
  | some e =>
    have hhas : d.HasEntity a.entityName := by simp [Dictionary.hasEntity_iff, he]
    have hdeclares := Dictionary.declares_iff_of_entity? hd he a.variableName
    cases hv : e.lookup? a.variableName with
    | none =>
      have hnot : ¬ d.Declares a.entityName a.variableName := by simp [hdeclares, hv]
      simp [attach, hentity, he, Entity.lookup?_mapCategories, hv, Dictionary.refusal?, hhas, hnot]
    | some v =>
      have hyes : d.Declares a.entityName a.variableName := by simp [hdeclares, hv]
      simp only [attach, hentity, he, Option.map_some, Entity.lookup?_mapCategories, hv,
        Dictionary.refusal?, hyes, if_true, not_mem_touched_reached_iff]
      simp only [reached, Dictionary.filled_concat hd, List.length_append, List.length_singleton,
        List.map_append, List.map_singleton, List.reverse_append, List.reverse_singleton,
        List.singleton_append]

theorem run_cons (mode : CategoryMode) (s : Attaching) (entry : Entry) (later : List Entry) :
    s.run mode (entry :: later) = (s.step mode entry).bind fun s => s.run mode later := rfl

/-- A run stops at the first attachment that the dictionary refuses, whatever it has done before,
and otherwise takes in all of them. -/
theorem run_reached {d : Dictionary} (hd : d.NamesDistinct) (mode : CategoryMode)
    (done : List Attachment) (skipped : Nat) (entries : List Entry) :
    (reached mode d done skipped).run mode entries =
      match (entries.filterMap Entry.attachment?).findSome? d.refusal? with
      | some err => .error err
      | none => .ok (reached mode d (done ++ entries.filterMap Entry.attachment?)
          (skipped + entries.count .skip)) := by
  -- The invariant is the form of the state: each step leads from one `reached` to another.
  induction entries generalizing done skipped with
  | nil => simp [run, pure, Except.pure]
  | cons entry later ih =>
    rw [run_cons]
    cases entry with
    | skip =>
      have hstep : (reached mode d done skipped).step mode .skip =
          .ok (reached mode d done (skipped + 1)) := rfl
      have hskip : (Entry.skip :: later).filterMap Entry.attachment? =
          later.filterMap Entry.attachment? := rfl
      rw [hstep, Except.bind, ih, hskip, List.count_cons_self, Nat.add_assoc, Nat.add_comm 1]
    | attach a =>
      rw [step, attach_reached hd]
      cases hr : d.refusal? a with
      | some err => simp [Entry.attachment?, hr, Except.bind]
      | none =>
        rw [Except.bind, ih]
        simp [Entry.attachment?, hr]

end Attaching

theorem Dictionary.refusal?_eq_none_iff {d : Dictionary} {a : Attachment} :
    d.refusal? a = none ↔ d.Declares a.entityName a.variableName := by
  rw [refusal?]
  split_ifs with hdeclares <;> simp [hdeclares]

theorem Dictionary.refusal?_eq_some_iff {d : Dictionary} {a : Attachment} {err : DictionaryError} :
    d.refusal? a = some err ↔
      (¬ d.HasEntity a.entityName ∧ err = .unknownEntity a.entityName a.line) ∨
        (d.HasEntity a.entityName ∧ ¬ d.Declares a.entityName a.variableName ∧
          err = .unknownVariable a.entityName a.variableName a.line) := by
  rw [refusal?]
  split_ifs with hdeclares hhas
  · simp [hdeclares, hdeclares.hasEntity]
  · simp [hdeclares, hhas, eq_comm]
  · simp [hhas, eq_comm]

/-- What a feed reports when it is attached. -/
def feedReport (layout : Layout) (text : String) : Report where
  attached := (inBlockLines layout text).length
  skipped := strayLines layout text + (feedLines text).count .malformed

namespace Dictionary

/-- A whole feed: refused at the first line inside a block that names no variable, else its lines
inside blocks fill the dictionary. -/
theorem attach_eq {d : Dictionary} (hd : d.NamesDistinct) (layout : Layout) (text : String) :
    d.attach layout text =
      match (inBlockLines layout text).findSome? d.refusal? with
      | some err => .error err
      | none => .ok (d.filled layout.categoryMode (inBlockLines layout text),
          feedReport layout text) := by
  have hrun := Attaching.run_reached hd layout.categoryMode [] 0 (feedEntries layout text)
  rw [Attaching.reached_nil, attachments_feedEntries, count_skip_feedEntries] at hrun
  rw [attach, hrun]
  cases (inBlockLines layout text).findSome? d.refusal? with
  | some err => rfl
  | none => simp [Except.map, Attaching.reached, feedReport]

theorem attach_eq_ok_iff {d : Dictionary} (hd : d.NamesDistinct) {layout : Layout} {text : String}
    {filled : Dictionary} {report : Report} :
    d.attach layout text = .ok (filled, report) ↔
      (∀ a ∈ inBlockLines layout text, d.Declares a.entityName a.variableName) ∧
        filled = d.filled layout.categoryMode (inBlockLines layout text) ∧
        report = feedReport layout text := by
  have hall : (inBlockLines layout text).findSome? d.refusal? = none ↔
      ∀ a ∈ inBlockLines layout text, d.Declares a.entityName a.variableName := by
    simp only [List.findSome?_eq_none_iff, refusal?_eq_none_iff]
  rw [← hall, attach_eq hd]
  cases (inBlockLines layout text).findSome? d.refusal? with
  | some err => simp
  | none => simp [eq_comm]

theorem attach_eq_error_iff {d : Dictionary} (hd : d.NamesDistinct) {layout : Layout}
    {text : String} {err : DictionaryError} :
    d.attach layout text = .error err ↔
      ∃ earlier a later, inBlockLines layout text = earlier ++ a :: later ∧
        (∀ b ∈ earlier, d.Declares b.entityName b.variableName) ∧ d.refusal? a = some err := by
  have hfirst : d.attach layout text = .error err ↔
      (inBlockLines layout text).findSome? d.refusal? = some err := by
    rw [attach_eq hd]
    cases (inBlockLines layout text).findSome? d.refusal? with
    | some err => simp
    | none => simp
  rw [hfirst, List.findSome?_eq_some_iff]
  simp only [refusal?_eq_none_iff, and_comm (a := d.refusal? _ = some err)]

end Dictionary

/-- The whole run of a feed over a dictionary of distinct names. It succeeds exactly when every
line inside a block names a variable that is there. It then changes nothing but the category
lists, each of which it merges with the lines that name its variable, and reports the lines
attached and those skipped. Otherwise it fails at the first line that names no variable. -/
theorem attach_follows_in_block_lines {d : Dictionary} (hd : d.NamesDistinct) (layout : Layout)
    (text : String) :
    ((∃ result, d.attach layout text = .ok result) ↔
      ∀ a ∈ inBlockLines layout text, d.Declares a.entityName a.variableName) ∧
    (∀ filled report, d.attach layout text = .ok (filled, report) →
      filled.entities = d.entities.map (fun e => { e with
        vars := e.vars.map fun v => { v with
          categories := layout.categoryMode.merge v.categories
            (categoriesFor (inBlockLines layout text) e.name v.name) } }) ∧
      report.attached = (inBlockLines layout text).length ∧
      report.skipped = strayLines layout text + (feedLines text).count .malformed) ∧
    (∀ err, d.attach layout text = .error err ↔
      ∃ earlier a later, inBlockLines layout text = earlier ++ a :: later ∧
        (∀ b ∈ earlier, d.Declares b.entityName b.variableName) ∧
        ((¬ d.HasEntity a.entityName ∧ err = .unknownEntity a.entityName a.line) ∨
          (d.HasEntity a.entityName ∧ ¬ d.Declares a.entityName a.variableName ∧
            err = .unknownVariable a.entityName a.variableName a.line))) := by
  refine ⟨⟨?_, ?_⟩, ?_, ?_⟩
  · intro hok
    obtain ⟨⟨filled, report⟩, hok⟩ := hok
    exact ((Dictionary.attach_eq_ok_iff hd).mp hok).1
  · intro hall
    exact ⟨_, (Dictionary.attach_eq_ok_iff hd).mpr ⟨hall, rfl, rfl⟩⟩
  · intro filled report hok
    obtain ⟨-, rfl, rfl⟩ := (Dictionary.attach_eq_ok_iff hd).mp hok
    exact ⟨rfl, rfl, rfl⟩
  · intro err
    rw [Dictionary.attach_eq_error_iff hd]
    simp only [Dictionary.refusal?_eq_some_iff]

/-- A census of one entity, one variable of which has a category already. -/
def personCensus : Dictionary :=
  ⟨[⟨"1", "PERSONA", .data, [⟨"P02", "I", [⟨"9", "Ignorado"⟩]⟩, ⟨"P03", "I", []⟩]⟩]⟩

theorem attach_refuses_unlisted_variable :
    personCensus.NamesDistinct ∧
      personCensus.attach {}
        "Nombre : P02\nEntidad : PERSONA\n1. A\nNombre : P04\n2. B\nEntidad : PERSONA\n3. C\n" =
          .error (.unknownVariable "PERSONA" "P04" 7) := by
  have hd : personCensus.NamesDistinct := ⟨by decide, by decide⟩
  refine ⟨hd, ((attach_follows_in_block_lines hd {} _).2.2 _).mpr ?_⟩
  refine ⟨[⟨3, "PERSONA", "P02", ⟨"1", "A"⟩⟩], ⟨7, "PERSONA", "P04", ⟨"3", "C"⟩⟩, [], ?_, ?_, ?_⟩
  · decide
  · decide
  · exact Or.inr ⟨by decide, by decide, rfl⟩

end Census
