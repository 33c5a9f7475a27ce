import Mathlib
import Census.Proofs.CategoryModes
import Census.Proofs.OutputStreams

/-!
What a command makes of its configuration. It cannot tell two configurations apart that agree on
the settings it needs, and it reads no configuration but the one that is selected; where that one
cannot be had, the command comes to nothing else.
-/

namespace Census.Cli

/-- The configurations agree on all that a command needs of one. -/
def Command.SeesSame (c c' : Config) : Command → Prop
  | query _ => True
  | identifiers _ => c.dictionary.SameTables c'.dictionary
  | categoryForm _ => c.dictionary.SameTables c'.dictionary ∧ c'.database = c.database
  | dictionary _ _ _ =>
    c.dictionary.SameTables c'.dictionary ∧
      c'.dictionary.nameLabel = c.dictionary.nameLabel ∧
      c'.dictionary.entityLabel = c.dictionary.entityLabel

theorem Command.seesSame_refl (c : Config) (command : Command) : command.SeesSame c c := by
  cases command with
  | query q => trivial
  | identifiers rows => exact ⟨rfl, rfl⟩
  | categoryForm rows => exact ⟨⟨rfl, rfl⟩, rfl⟩
  | dictionary rows categories append => exact ⟨⟨rfl, rfl⟩, rfl, rfl⟩

/-- The file that the configuration is read from: the one named, else the one of the default name
if it is there. -/
def selectedConfig? (files : Files) : Option String → Option String
  | some path => some path
  | none => if files.hasFile defaultConfig then some defaultConfig else none

theorem loadConfig_eq (wording : Wording) (files : Files) (config : Option String) :
    loadConfig wording files config =
      (selectedConfig? files config).elim (.ok {}) (readConfig wording files) := by
  cases config with
  | some path => rfl
  | none =>
    rw [loadConfig, selectedConfig?]
    split_ifs <;> rfl

/-- Layouts that agree on tables and on labels can differ in the mode alone. -/
theorem eq_withMode_of_labels {layout layout' : Layout} (h : layout.SameTables layout')
    (hname : layout'.nameLabel = layout.nameLabel)
    (hentity : layout'.entityLabel = layout.entityLabel) :
    layout' = layout.withMode layout'.categoryMode := by
  obtain ⟨tag, trailing, name, entity, mode⟩ := layout
  obtain ⟨tag', trailing', name', entity', mode'⟩ := layout'
  obtain ⟨rfl, rfl⟩ := h
  obtain rfl := hname
  obtain rfl := hentity
  rfl

section Commands

variable {wording : Wording} {files files' : Files}

theorem QueryCommand.request_congr {q : QueryCommand}
    (hfiles : ∀ path ∈ (Command.query q).paths, files' path = files path) :
    q.request wording files' = q.request wording files := by
  cases q with
  | file path =>
    have hpath : files' path = files path := hfiles path List.mem_cons_self
    rw [request, request, readRequestFile, readRequestFile, hpath]
  | areaList | counter | median | reserved => rfl

theorem queryableIn_congr {c c' : Config} (h : c.dictionary.SameTables c'.dictionary)
    {rows : String} (hrows : files' rows = files rows) :
    queryableIn wording files' c' rows = queryableIn wording files c rows := by
  have hsource : fileSource wording files' rows none = fileSource wording files rows none :=
    fileSource_congr wording hrows (by simp)
  rw [queryableIn, queryableIn, hsource, Source.declared_of_sameTables h]

theorem runDictionary_congr {c c' : Config} (h : c.dictionary.SameTables c'.dictionary)
    (hname : c'.dictionary.nameLabel = c.dictionary.nameLabel)
    (hentity : c'.dictionary.entityLabel = c.dictionary.entityLabel) {rows : String}
    {categories : Option String} (hrows : files' rows = files rows)
    (hcategories : ∀ path ∈ categories, files' path = files path) (append : Bool) :
    runDictionary wording files' c' rows categories append =
      runDictionary wording files c rows categories append := by
  have hsource : fileSource wording files' rows categories =
      fileSource wording files rows categories :=
    fileSource_congr wording hrows hcategories
  rw [runDictionary_eq, runDictionary_eq, hsource, eq_withMode_of_labels h hname hentity,
    Source.catalog_withMode]

/-- A command depends on nothing but the settings it needs and the files it reads. -/
theorem Command.run_congr {c c' : Config} {command : Command} (hconfig : command.SeesSame c c')
    (hfiles : ∀ path ∈ command.paths, files' path = files path) :
    command.run wording files' c' = command.run wording files c := by
  cases command with
  | query q =>
    rw [run, run, runQuery, runQuery, QueryCommand.request_congr hfiles]
  | identifiers rows =>
    have hrows : files' rows = files rows := hfiles rows List.mem_cons_self
    rw [run, run, queryableIn_congr hconfig hrows]
  | categoryForm rows =>
    obtain ⟨htables, hdatabase⟩ := hconfig
    have hrows : files' rows = files rows := hfiles rows List.mem_cons_self
    rw [run, run, queryableIn_congr htables hrows, hdatabase]
  | dictionary rows categories append =>
    obtain ⟨htables, hname, hentity⟩ := hconfig
    have hrows : files' rows = files rows := hfiles rows List.mem_cons_self
    have hcategories : ∀ path ∈ categories, files' path = files path := by
      intro path hpath
      exact hfiles path (List.mem_cons_of_mem rows (Option.mem_toList.mpr hpath))
    exact runDictionary_congr htables hname hentity hrows hcategories append

theorem Invocation.run_of_seesSame {i i' : Invocation} (hcommand : i'.command = i.command)
    (houtput : i'.output = i.output) (hquiet : i'.quiet = i.quiet)
    (hfiles : ∀ path ∈ i.command.paths, files' path = files path) {c c' : Config}
    (hc : loadConfig wording files i.config = .ok c)
    (hc' : loadConfig wording files' i'.config = .ok c') (hsame : i.command.SeesSame c c') :
    i'.run wording files' = i.run wording files := by
  have hresult : i'.result wording files' = i.result wording files := by
    rw [result, result, hc, hc', hcommand]
    exact Command.run_congr hsame hfiles
  rw [run, run, hresult, houtput, hquiet]

/-- With a configuration named, no other file of that kind is looked at. -/
theorem Invocation.run_of_named {i : Invocation} {path : String} (hi : i.config = some path)
    (hfiles : ∀ read ∈ path :: i.command.paths, files' read = files read) :
    i.run wording files' = i.run wording files := by
  have hload : loadConfig wording files' i.config = loadConfig wording files i.config := by
    have hpath : files' path = files path := hfiles path List.mem_cons_self
    rw [hi, loadConfig, loadConfig, readConfig, readConfig, hpath]
  have hresult : i.result wording files' = i.result wording files := by
    rw [result, result, hload]
    cases loadConfig wording files i.config with
    | error message => rfl
    | ok c =>
      exact Command.run_congr (Command.seesSame_refl c i.command) fun read hread =>
        hfiles read (List.mem_cons_of_mem path hread)
  rw [run, run, hresult]

/-- A configuration that cannot be had is the only thing reported. -/
theorem Invocation.fails_of_selected {i : Invocation} {path message : String}
    (hi : selectedConfig? files i.config = some path)
    (hread : readConfig wording files path = .error message) :
    (i.run wording files).Fails i message := by
  have hload : loadConfig wording files i.config = .error message := by
    rw [loadConfig_eq, hi, Option.elim_some, hread]
  apply fails_of_result
  rw [result, hload]
  rfl

end Commands

/-- What the outcome of a command line may depend on in the configuration. Under two configurations
that load, a command comes to the same outcome if they agree on the settings it needs, wherever
they are read from. With a configuration named, only that file counts besides those that the
command reads, so nothing that stands under the default name does. And a selected configuration
that cannot be read, or does not parse, makes every command fail with that message alone. -/
theorem outcome_depends_on_seen_settings (wording : Wording) :
    (∀ (files files' : Files) (args args' : List String) (i i' : Invocation) (c c' : Config),
      CommandLine.ofArguments args = .invoke i → CommandLine.ofArguments args' = .invoke i' →
      i'.command = i.command → i'.output = i.output → i'.quiet = i.quiet →
      (∀ path ∈ i.command.paths, files' path = files path) →
      loadConfig wording files i.config = .ok c → loadConfig wording files' i'.config = .ok c' →
      i.command.SeesSame c c' → outcome wording files' args' = outcome wording files args) ∧
    (∀ (files files' : Files) (args : List String) (i : Invocation) (path : String),
      CommandLine.ofArguments args = .invoke i → i.config = some path →
      (∀ read ∈ path :: i.command.paths, files' read = files read) →
      outcome wording files' args = outcome wording files args) ∧
    (∀ (files : Files) (args : List String) (i : Invocation) (path : String),
      CommandLine.ofArguments args = .invoke i → selectedConfig? files i.config = some path →
      (∀ e, files path = .error e →
        (outcome wording files args).Fails i ("could not read '" ++ path ++ "': " ++ e.message)) ∧
      ∀ content e, files path = .ok content →
        Format.toml.read (fun m => (Config.struct m).read m) content = .error e →
        (outcome wording files args).Fails i
          ("could not parse '" ++ path ++ "': " ++ wording ⟨content, e⟩)) := by
  refine ⟨?_, ?_, ?_⟩
  · intro files files' args args' i i' c c' hi hi' hcommand houtput hquiet hfiles hc hc' hsame
    rw [outcome_of_invoke hi, outcome_of_invoke hi']
    exact Invocation.run_of_seesSame hcommand houtput hquiet hfiles hc hc' hsame
  · intro files files' args i path hi hconfig hfiles
    rw [outcome_of_invoke hi, outcome_of_invoke hi]
    exact Invocation.run_of_named hconfig hfiles
  · intro files args i path hi hselected
    rw [outcome_of_invoke hi]
    refine ⟨?_, ?_⟩
    · intro e hpath
      apply Invocation.fails_of_selected hselected
      rw [readConfig, hpath]
    · intro content e hpath hparse
      apply Invocation.fails_of_selected hselected
      rw [readConfig, hpath]
      simp only [hparse, Except.mapError]

/-- A table and a feed beside two configurations, of which the one of the default name is open. -/
def filesOfConfig (content : String) : Files := fun path =>
  if path = defaultConfig then .ok content
  else if path = "named.toml" then .ok "[dictionary]\nname_label = \"Variable\"\n"
  else filesOfMode "replace" path

/-- The identifiers of a table are listed alike under another label for names, without a look at a
broken configuration that is not selected; where it is selected, the command fails. -/
theorem identifiers_ignore_labels :
    outcome (fun _ => "?") (filesOfConfig "[") ["--config", "named.toml", "variables", "--rows",
        "rows.json"] =
      outcome (fun _ => "?") (filesOfConfig "") ["variables", "--rows", "rows.json"] ∧
    outcome (fun _ => "?") (filesOfConfig "[") ["--config", "named.toml", "variables", "--rows",
        "rows.json"] =
      outcome (fun _ => "?") (filesOfConfig "") ["--config", "named.toml", "variables", "--rows",
        "rows.json"] ∧
    (outcome (fun _ => "?") (filesOfConfig "[") ["variables", "--rows", "rows.json"]).Fails
      { command := .identifiers "rows.json" } "could not parse 'redatam.toml': ?" := by
  have hargs : CommandLine.ofArguments ["variables", "--rows", "rows.json"] =
      .invoke { command := .identifiers "rows.json" } := by
    decide
  have hnamed : CommandLine.ofArguments ["--config", "named.toml", "variables", "--rows",
      "rows.json"] =
        .invoke { config := some "named.toml", command := .identifiers "rows.json" } := by
    decide
  have hc : loadConfig (fun _ => "?") (filesOfConfig "") none = .ok {} := by decide +kernel
  have hc' : loadConfig (fun _ => "?") (filesOfConfig "[") (some "named.toml") =
      .ok { dictionary := { nameLabel := "Variable" } } := by
    decide +kernel
  have hbroken : Format.toml.read (fun m => (Config.struct m).read m) "[" = .error .malformed := by
    decide +kernel
  have hrows : ∀ path ∈ (Command.identifiers "rows.json").paths,
      filesOfConfig "[" path = filesOfConfig "" path := by
    intro path hpath
    obtain rfl := List.mem_singleton.mp hpath
    rfl
  obtain ⟨hsame, hother, hfails⟩ := outcome_depends_on_seen_settings fun _ => "?"
  refine ⟨?_, ?_, ?_⟩
  · exact hsame _ _ _ _ _ _ _ _ hargs hnamed rfl rfl rfl hrows hc hc' ⟨rfl, rfl⟩
  · refine hother _ _ _ _ _ hnamed rfl ?_
    intro path hpath
    rcases List.mem_cons.mp hpath with rfl | hpath
    · rfl
    · exact hrows path hpath
  · exact (hfails (filesOfConfig "[") _ _ defaultConfig hargs rfl).2 "[" .malformed rfl hbroken

end Census.Cli
