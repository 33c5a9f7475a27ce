import Mathlib
import Census.Proofs.CategoryModes
import Census.Proofs.PrintedPages

/-!
What the commands on a dictionary show of one table. Each goes its own way to the names of entities
and variables: from the rows alone, through a catalog whose feed is empty, or through one whose feed
adds categories. All come to the same names, or to the same failure.
-/

namespace Census

/-- The names in a dictionary: entities with their variables, and the entities of either kind. -/
structure Names where
  entities : List (String × List String)
  geographic : List String
  data : List String

namespace Names

/-- No name comes twice where it serves as a key, and every data entity can be looked up. -/
structure Sound (n : Names) : Prop where
  entities : (n.entities.map Prod.fst).Nodup
  vars : ∀ e ∈ n.entities, e.2.Nodup
  data : ∀ name ∈ n.data, (n.entities.lookup name).isSome

/-- The identifiers of the variables of data entities, each entity looked up by its name. -/
def identifiers (n : Names) : List String :=
  n.data.flatMap fun entity =>
    ((n.entities.lookup entity).getD []).map (Dictionary.identifier entity)

end Names

/-- A dictionary build with these names, whatever categories it lists. -/
def Outline.ShowsNames (o : Outline) (n : Names) : Prop :=
  ∃ entities, List.Forall₂
      (fun shown e =>
        ∃ vars, shown = (some e.1, .record vars) ∧ vars.map Prod.fst = e.2.map some)
      entities n.entities ∧
    o = .record [(some "dictionary", .record entities),
      (some "geo_entities", .list (n.geographic.map .text)),
      (some "data_entities", .list (n.data.map .text))]

namespace Dictionary

def names (d : Dictionary) : Names where
  entities := d.entities.map fun e => (e.name, e.vars.map Variable.name)
  geographic := d.namesOf .geographic
  data := d.namesOf .data

theorem namesOf_mapCategories (d : Dictionary)
    (f : String → String → List Category → List Category) (kind : EntityKind) :
    (d.mapCategories f).namesOf kind = d.namesOf kind := by
  rw [namesOf, namesOf, mapCategories, List.filter_map, List.map_map]
  rfl

/-- Names are not touched by anything that is done to categories. -/
theorem names_mapCategories (d : Dictionary)
    (f : String → String → List Category → List Category) :
    (d.mapCategories f).names = d.names := by
  have hentities : ((d.mapCategories f).entities.map fun e => (e.name, e.vars.map Variable.name)) =
      d.entities.map fun e => (e.name, e.vars.map Variable.name) := by
    simp [mapCategories, Entity.mapCategories, Variable.updateCategories]
  rw [names, names, hentities, namesOf_mapCategories, namesOf_mapCategories]

theorem names_of_attach {d filled : Dictionary} (hd : d.NamesDistinct) {layout : Layout}
    {text : String} {report : Report} (h : d.attach layout text = .ok (filled, report)) :
    filled.names = d.names := by
  obtain ⟨-, rfl, -⟩ := (attach_eq_ok_iff hd).mp h
  exact d.names_mapCategories _

/-- A text without a line changes nothing. -/
theorem attach_empty (d : Dictionary) (layout : Layout) : d.attach layout "" = .ok (d, {}) := rfl

namespace NamesDistinct

variable {d : Dictionary} (hd : d.NamesDistinct)

include hd

theorem lookup_names {e : Entity} (he : e ∈ d.entities) :
    d.names.entities.lookup e.name = some (e.vars.map Variable.name) := by
  obtain ⟨before, after, hsplit⟩ := List.append_of_mem he
  have hnames := hd.entities
  rw [hsplit, List.map_append, List.map_cons, List.nodup_append] at hnames
  obtain ⟨-, -, hbefore⟩ := hnames
  refine List.lookup_eq_some_iff.mpr ⟨before.map fun e => (e.name, e.vars.map Variable.name),
    after.map fun e => (e.name, e.vars.map Variable.name), ?_, ?_⟩
  · rw [names, hsplit, List.map_append, List.map_cons]
  · intro p hp
    obtain ⟨f, hf, rfl⟩ := List.mem_map.mp hp
    have hne : f.name ≠ e.name :=
      hbefore _ (List.mem_map_of_mem hf) _ List.mem_cons_self
    exact bne_iff_ne.mpr hne.symm

theorem names_sound : d.names.Sound where
  entities := by
    rw [names, List.map_map]
    exact hd.entities
  vars := by
    intro e he
    obtain ⟨entity, hentity, rfl⟩ := List.mem_map.mp he
    exact hd.vars entity hentity
  data := by
    intro name hname
    obtain ⟨e, he, rfl⟩ := List.mem_map.mp hname
    rw [hd.lookup_names (List.mem_of_mem_filter he)]
    rfl

/-- What can be queried is found again from the names, since each leads to its own entity. -/
theorem identifiers_names : d.names.identifiers = d.queryable := by
  rw [Names.identifiers, queryable]
  change ((d.entities.filter fun e => e.kind = .data).map Entity.name).flatMap _ = _
  rw [List.flatMap_map]
  apply List.flatMap_congr
  intro e he
  rw [hd.lookup_names (List.mem_of_mem_filter he), Option.getD_some, List.map_map]
  rfl

end NamesDistinct

theorem showsNames_buildJson (d : Dictionary) : d.buildJson.outline.ShowsNames d.names := by
  have hvars (e : Entity) : (Json.entryOutlines (e.vars.map Variable.entry)).map Prod.fst =
      (e.vars.map Variable.name).map some := by
    rw [Json.entryOutlines_eq_map, List.map_map, List.map_map, List.map_map]
    rfl
  refine ⟨Json.entryOutlines (d.entities.map Entity.entry), ?_, ?_⟩
  · rw [Json.entryOutlines_eq_map, List.map_map, names, List.forall₂_map_left_iff,
      List.forall₂_map_right_iff, List.forall₂_same]
    exact fun e he => ⟨_, rfl, hvars e⟩
  · rw [names, ← Json.outline_texts, ← Json.outline_texts]
    rfl

end Dictionary

namespace Source

/-- A catalog whose feed is empty is the dictionary that the rows declare. -/
theorem outcome_catalog_of_empty {source : Source}
    (h : ∀ identifiers, source.categoryText identifiers = .ok "") (layout : Layout) :
    (source.catalog layout).outcome = source.declared layout := by
  rw [catalog]
  cases source.declared layout with
  | error err => rfl
  | ok d => exact filled_eq_ok_iff.mpr ⟨"", {}, h _, d.attach_empty layout⟩

theorem names_of_catalog {source : Source} {layout : Layout} {d filled : Dictionary}
    (hd : source.declared layout = .ok d) (h : (source.catalog layout).outcome = .ok filled) :
    filled.names = d.names := by
  obtain ⟨d', hd', hfilled⟩ := catalog_eq_ok_iff.mp h
  obtain rfl : d = d' := Except.ok.inj (hd.symm.trans hd')
  obtain ⟨rows, -, hrows⟩ := declared_eq_ok_iff.mp hd
  obtain ⟨text, report, -, hattach⟩ := filled_eq_ok_iff.mp hfilled
  exact Dictionary.names_of_attach (Dictionary.namesDistinct_of_ofRows hrows) hattach

end Source

/-- The `VARIABLE` fields of a form are the identifiers it asks for. -/
theorem variables_of_fields (r : CategoryRequest) (identifiers : List String) :
    ((r.fields identifiers).filter fun p => p.1 = "VARIABLE").map Prod.snd = identifiers := by
  simp [CategoryRequest.fields, List.filter_append, List.filter_map, Function.comp_def]

namespace Cli

/-- The commands that show a table without a feed of categories. -/
def tableCommands (rows : String) : List Command :=
  [.identifiers rows, .categoryForm rows, .dictionary rows none false, .dictionary rows none true]

/-- What these commands start from: the configuration, and the dictionary that the rows declare. -/
def declaredIn (wording : Wording) (files : Files) (config : Option String) (rows : String) :
    Except String (Config × Dictionary) := do
  let loaded ← loadConfig wording files config
  let declared := (fileSource wording files rows none).declared loaded.dictionary
  (declared.mapError dictionaryFailure).map fun d => (loaded, d)

theorem declaredIn_eq_ok_iff {wording : Wording} {files : Files} {config : Option String}
    {rows : String} {loaded : Config} {d : Dictionary} :
    declaredIn wording files config rows = .ok (loaded, d) ↔
      loadConfig wording files config = .ok loaded ∧
        (fileSource wording files rows none).declared loaded.dictionary = .ok d := by
  simp only [declaredIn, bind_eq_ok_iff, map_eq_ok_iff, mapError_eq_ok_iff]
  constructor
  · rintro ⟨loaded', hloaded, d', hd, heq⟩
    obtain ⟨rfl, rfl⟩ := Prod.mk.inj heq
    exact ⟨hloaded, hd⟩
  · rintro ⟨hloaded, hd⟩
    exact ⟨loaded, hloaded, d, hd, rfl⟩

/-- The page of one of these commands. -/
def tablePage (loaded : Config) (d : Dictionary) : Command → Page
  | .identifiers _ => identifiersPage d.queryable
  | .categoryForm _ => formPage (loaded.database.fields d.queryable)
  | _ => dictionaryPage d

section Results

variable (wording : Wording) (files : Files) (config : Option String) (rows : String)
  (output : Output) (quiet : Bool)

/-- The commands fail on the same occasions, since nothing can go wrong behind the rows. -/
theorem result_tableCommand {command : Command} (h : command ∈ tableCommands rows) :
    Invocation.result wording files ⟨output, quiet, config, command⟩ =
      (declaredIn wording files config rows).map fun p => tablePage p.1 p.2 command := by
  have hempty (layout : Layout) :
      ((fileSource wording files rows none).catalog layout).outcome =
        (fileSource wording files rows none).declared layout :=
    Source.outcome_catalog_of_empty (fun _ => rfl) layout
  rw [Invocation.result, declaredIn]
  cases loadConfig wording files config with
  | error message => rfl
  | ok loaded =>
    change command.run wording files loaded =
      Except.map _ (((_ : Except DictionaryError Dictionary).mapError dictionaryFailure).map _)
    simp only [tableCommands, List.mem_cons, List.not_mem_nil, or_false] at h
    rcases h with rfl | rfl | rfl | rfl
    · rw [Command.run, queryableIn]
      cases (fileSource wording files rows none).declared loaded.dictionary <;> rfl
    · rw [Command.run, queryableIn]
      cases (fileSource wording files rows none).declared loaded.dictionary <;> rfl
    · rw [Command.run, runDictionary_eq, hempty]
      cases (fileSource wording files rows none).declared loaded.dictionary <;> rfl
    · rw [Command.run, runDictionary_eq, hempty]
      cases (fileSource wording files rows none).declared loaded.dictionary <;> rfl

/-- A catalog that goes through shows the names that the rows declare. -/
theorem exists_prints_of_exit {loaded : Config} {d : Dictionary}
    (hnames : declaredIn wording files config rows = .ok (loaded, d)) {categories : Option String}
    {append : Bool}
    (h : (Invocation.run wording files
      ⟨output, quiet, config, .dictionary rows categories append⟩).exit = 0) :
    ∃ build, (Invocation.run wording files
        ⟨.json, quiet, config, .dictionary rows categories append⟩).Prints build ∧
      build.ShowsNames d.names := by
  obtain ⟨hloaded, hrows⟩ := declaredIn_eq_ok_iff.mp hnames
  have hd : (fileSource wording files rows categories).declared loaded.dictionary = .ok d := hrows
  rw [Invocation.run] at h
  cases hresult : Invocation.result wording files
      ⟨output, quiet, config, .dictionary rows categories append⟩ with
  | error message =>
    rw [hresult] at h
    cases h
  | ok page =>
    obtain ⟨loaded', hloaded', hpage⟩ := bind_eq_ok_iff.mp hresult
    obtain rfl : loaded = loaded' := Except.ok.inj (hloaded.symm.trans hloaded')
    rw [Command.run, runDictionary_eq] at hpage
    obtain ⟨filled, hfilled, rfl⟩ := map_eq_ok_iff.mp hpage
    have hsame := Source.names_of_catalog hd (mapError_eq_ok_iff.mp hfilled)
    refine ⟨filled.buildJson.outline, ?_, hsame ▸ filled.showsNames_buildJson⟩
    rw [Invocation.run]
    change (Outcome.ofResult .json quiet (Invocation.result wording files
      ⟨output, quiet, config, .dictionary rows categories append⟩)).Prints _
    rw [hresult]
    exact (readable_dictionaryPage filled).prints quiet

end Results

/-- The commands on a dictionary agree. Without a category file all of them fail alike, or all
succeed. If they do, the identifiers listed are those that the form asks for and those of the
variables of the data entities of the dictionary; and a category file that can be attached changes
no name that the dictionary shows. -/
theorem dictionary_commands_agree (wording : Wording) (files : Files) (config : Option String)
    (rows : String) :
    (∃ message, ∀ command ∈ tableCommands rows, ∀ output quiet,
      Invocation.run wording files ⟨output, quiet, config, command⟩ =
        ⟨1, "", if quiet then "" else report output message⟩) ∨
    (∀ command ∈ tableCommands rows, ∀ output quiet,
      (Invocation.run wording files ⟨output, quiet, config, command⟩).exit = 0) ∧
    ∃ (identifiers : List String) (fields : List (String × String)) (names : Names),
      names.Sound ∧
      identifiers = (fields.filter fun p => p.1 = "VARIABLE").map Prod.snd ∧
      identifiers = names.identifiers ∧
      ∀ quiet,
        (Invocation.run wording files ⟨.json, quiet, config, .identifiers rows⟩).Prints
          (.list (identifiers.map .text)) ∧
        (Invocation.run wording files ⟨.json, quiet, config, .categoryForm rows⟩).Prints
          (.list (fields.map fun p => .list [.text p.1, .text p.2])) ∧
        ∀ categories append output,
          (Invocation.run wording files
            ⟨output, quiet, config, .dictionary rows categories append⟩).exit = 0 →
          ∃ build, (Invocation.run wording files
              ⟨.json, quiet, config, .dictionary rows categories append⟩).Prints build ∧
            build.ShowsNames names := by
  cases hdeclared : declaredIn wording files config rows with
  | error message =>
    left
    refine ⟨message, fun command hcommand output quiet => ?_⟩
    rw [Invocation.run, result_tableCommand wording files config rows output quiet hcommand,
      hdeclared]
    rfl
  | ok declared =>
    right
    obtain ⟨loaded, d⟩ := declared
    have hrun (command : Command) (hcommand : command ∈ tableCommands rows) (output : Output)
        (quiet : Bool) : Invocation.run wording files ⟨output, quiet, config, command⟩ =
          Outcome.ofResult output quiet (.ok (tablePage loaded d command)) := by
      rw [Invocation.run, result_tableCommand wording files config rows output quiet hcommand,
        hdeclared]
      rfl
    obtain ⟨-, hd⟩ := declaredIn_eq_ok_iff.mp hdeclared
    obtain ⟨table, -, htable⟩ := Source.declared_eq_ok_iff.mp hd
    have hnames := Dictionary.namesDistinct_of_ofRows htable
    have hfields := variables_of_fields loaded.database d.queryable
    refine ⟨fun command hcommand output quiet => ?_, d.queryable, _, d.names, hnames.names_sound,
      hfields.symm, hnames.identifiers_names.symm, fun quiet => ⟨?_, ?_, ?_⟩⟩
    · rw [hrun command hcommand]
      rfl
    · rw [hrun _ (by simp [tableCommands]), ← Json.outline_texts]
      exact (readable_identifiersPage d.queryable).prints quiet
    · rw [hrun _ (by simp [tableCommands]), ← outline_fieldsJson]
      exact (readable_formPage _).prints quiet
    · intro categories append output hexit
      exact exists_prints_of_exit wording files config rows output quiet hdeclared hexit

/-- A table of one variable, with a feed that can be attached to it. -/
theorem sex_files_show_same_names :
    (Invocation.run (fun _ => "") (filesOfMode "replace")
        ⟨.text, true, none, .dictionary "rows.json" (some "feed.txt") false⟩).exit = 0 ∧
      ∃ build names, (Invocation.run (fun _ => "") (filesOfMode "replace")
          ⟨.json, true, none, .dictionary "rows.json" (some "feed.txt") false⟩).Prints build ∧
        build.ShowsNames names ∧ names.identifiers = ["PERSONA.P02"] := by
  have hexit : (Invocation.run (fun _ => "") (filesOfMode "replace")
      ⟨.text, true, none, .dictionary "rows.json" (some "feed.txt") false⟩).exit = 0 := by
    decide +kernel
  have hlisted : Invocation.run (fun _ => "") (filesOfMode "replace")
      ⟨.json, true, none, .identifiers "rows.json"⟩ =
        Outcome.ofResult .json true (.ok (identifiersPage ["PERSONA.P02"])) := by
    decide +kernel
  refine ⟨hexit, ?_⟩
  rcases dictionary_commands_agree (fun _ => "") (filesOfMode "replace") none "rows.json" with
    ⟨message, hfails⟩ | ⟨-, identifiers, fields, names, -, -, rfl, hshown⟩
  · have hfails := hfails (.identifiers "rows.json") List.mem_cons_self .json true
    rw [hlisted] at hfails
    exact absurd (congrArg Outcome.exit hfails) Nat.zero_ne_one
  · obtain ⟨hidentifiers, -, hbuild⟩ := hshown true
    obtain ⟨build, hprints, hnames⟩ := hbuild _ _ _ hexit
    refine ⟨build, names, hprints, hnames, ?_⟩
    rw [hlisted] at hidentifiers
    have hread := ((readable_identifiersPage ["PERSONA.P02"]).prints true).stdout
    have hlist := congrArg Json.Reading.outline (hidentifiers.stdout.symm.trans hread)
    rw [identifiersPage, Json.outline_texts] at hlist
    exact List.map_injective_iff.mpr (fun _ _ => Outline.text.inj) (Outline.list.inj hlist)

end Cli

end Census
