import Mathlib
import Census.Cli.Run
import Census.Proofs.CommandFlags
import Census.Proofs.FeedComposition

/-!
What becomes of categories that are there already is never seen in a catalog: its one feed meets a
dictionary that has just been declared, in which no variable has any.
-/

namespace Census

def Layout.withMode (mode : CategoryMode) (layout : Layout) : Layout :=
  { layout with categoryMode := mode }

def Config.withMode (mode : CategoryMode) (config : Config) : Config :=
  { config with dictionary := config.dictionary.withMode mode }

/-- No variable has a category yet. -/
def Dictionary.Uncategorised (d : Dictionary) : Prop :=
  ∀ e ∈ d.entities, ∀ v ∈ e.vars, v.categories = []

/-- The layouts say the same of tables; they may differ in what they say of feeds. -/
structure Layout.SameTables (layout layout' : Layout) : Prop where
  tag : layout'.geoTypeTag = layout.geoTypeTag
  trailing : layout'.trailingEntity = layout.trailingEntity

theorem Layout.sameTables_withMode (mode : CategoryMode) (layout : Layout) :
    layout.SameTables (layout.withMode mode) :=
  ⟨rfl, rfl⟩

namespace Intake

variable {layout layout' : Layout}

/-- A row is taken in by its tag alone. -/
theorem step_of_sameTables (h : layout.SameTables layout') (s : Intake) (r : Row) (n : ℕ) :
    s.step layout' r n = s.step layout r n := by
  obtain ⟨tag, trailing, name, entity, mode⟩ := layout
  obtain ⟨tag', trailing', name', entity', mode'⟩ := layout'
  obtain ⟨rfl, rfl⟩ := h
  rfl

theorem run_of_sameTables (h : layout.SameTables layout') (s : Intake) (rows : List Row) (n : ℕ) :
    s.run layout' rows n = s.run layout rows n := by
  induction rows generalizing s n with
  | nil => rfl
  | cons r rows ih =>
    rw [run, run, step_of_sameTables h]
    cases s.step layout r n with
    | error err => rfl
    | ok next => exact ih next (n + 1)

theorem finish_of_sameTables (h : layout.SameTables layout') (s : Intake) :
    s.finish layout' = s.finish layout := by
  obtain ⟨tag, trailing, name, entity, mode⟩ := layout
  obtain ⟨tag', trailing', name', entity', mode'⟩ := layout'
  obtain ⟨rfl, rfl⟩ := h
  rfl

end Intake

theorem inBlockLines_withMode (mode : CategoryMode) (layout : Layout) (text : String) :
    inBlockLines (layout.withMode mode) text = inBlockLines layout text := rfl

theorem feedReport_withMode (mode : CategoryMode) (layout : Layout) (text : String) :
    feedReport (layout.withMode mode) text = feedReport layout text := rfl

namespace Dictionary

theorem ofRows_of_sameTables {layout layout' : Layout} (h : layout.SameTables layout')
    (rows : List Row) : ofRows layout' rows = ofRows layout rows := by
  rw [ofRows, ofRows, Intake.run_of_sameTables h]
  simp only [Intake.finish_of_sameTables h]

theorem uncategorised_of_ofRows {layout : Layout} {rows : List Row} {d : Dictionary}
    (h : ofRows layout rows = .ok d) : d.Uncategorised := by
  obtain ⟨-, -, rfl⟩ := ofRows_eq_ok_iff.mp h
  intro e he v hv
  obtain ⟨run, -, rfl⟩ := List.mem_map.mp he
  obtain ⟨r, -, rfl⟩ := List.mem_map.mp hv
  rfl

/-- Where there is nothing to replace, replacing and adding come to the same. -/
theorem filled_of_uncategorised {d : Dictionary} (hd : d.Uncategorised) (mode : CategoryMode)
    (attachments : List Attachment) :
    d.filled mode attachments = d.mapCategories fun e v _ => categoriesFor attachments e v := by
  apply mapCategories_congr
  intro e he v hv
  rw [hd e he v hv, CategoryMode.nil_merge]

theorem attach_withMode {d : Dictionary} (hd : d.NamesDistinct) (hnew : d.Uncategorised)
    (mode : CategoryMode) (layout : Layout) (text : String) :
    d.attach (layout.withMode mode) text = d.attach layout text := by
  rw [attach_eq hd, attach_eq hd, inBlockLines_withMode, feedReport_withMode,
    filled_of_uncategorised hnew, filled_of_uncategorised hnew]

end Dictionary

theorem Source.declared_of_sameTables {layout layout' : Layout} (h : layout.SameTables layout')
    (source : Source) : source.declared layout' = source.declared layout := by
  simp only [declared, Dictionary.ofRows_of_sameTables h]

/-- The dictionary that a source declares is filled in one way, whatever the mode. -/
theorem Source.filled_withMode {layout : Layout} {source : Source} {d : Dictionary}
    (h : source.declared layout = .ok d) (mode : CategoryMode) :
    source.filled (layout.withMode mode) d = source.filled layout d := by
  rw [declared] at h
  cases hrows : source.rows with
  | error err => simp [hrows, bind, Except.bind] at h
  | ok rows =>
    have hd : Dictionary.ofRows layout rows = .ok d := by simpa [hrows, bind, Except.bind] using h
    have hattach (text : String) :=
      Dictionary.attach_withMode (Dictionary.namesDistinct_of_ofRows hd)
        (Dictionary.uncategorised_of_ofRows hd) mode layout text
    simp only [filled, hattach]

theorem Source.catalog_withMode (mode : CategoryMode) (layout : Layout) (source : Source) :
    source.catalog (layout.withMode mode) = source.catalog layout := by
  rw [catalog, catalog, declared_of_sameTables (layout.sameTables_withMode mode)]
  cases h : source.declared layout with
  | error err => rfl
  | ok d => simp only [filled_withMode h]

namespace Cli

theorem fileSource_congr (wording : Wording) {files files' : Files} {rows : String}
    {categories : Option String} (hrows : files rows = files' rows)
    (hcategories : ∀ path ∈ categories, files path = files' path) :
    fileSource wording files rows categories = fileSource wording files' rows categories := by
  have hread {path : String} (h : files path = files' path) :
      readFile files path = readFile files' path := by rw [readFile, readFile, h]
  cases categories with
  | none => simp only [fileSource, readRowsFile, hread hrows]
  | some path => simp only [fileSource, readRowsFile, hread hrows, hread (hcategories path rfl)]

/-- The page shows the catalog under the layout of the configuration, with the flag or without. -/
theorem runDictionary_eq (wording : Wording) (files : Files) (config : Config) (rows : String)
    (categories : Option String) (append : Bool) :
    runDictionary wording files config rows categories append =
      (((fileSource wording files rows categories).catalog config.dictionary).outcome.mapError
        dictionaryFailure).map dictionaryPage := by
  cases append with
  | false => rfl
  | true =>
    have hcatalog := Source.catalog_withMode .append config.dictionary
      (fileSource wording files rows categories)
    rw [← hcatalog]
    rfl

/-- Two attempts to load a configuration that differ at most in the mode. -/
inductive SameButMode : Except String Config → Except String Config → Prop
  | failed (reason : String) : SameButMode (.error reason) (.error reason)
  | loaded (config : Config) (mode : CategoryMode) :
    SameButMode (.ok config) (.ok (config.withMode mode))

theorem SameButMode.refl (attempt : Except String Config) : SameButMode attempt attempt := by
  cases attempt with
  | error reason => exact .failed reason
  | ok config => exact .loaded config config.dictionary.categoryMode

theorem run_dictionary_of_sameButMode {wording : Wording} {files files' : Files}
    {config config' : Option String}
    (hconfig : SameButMode (loadConfig wording files config) (loadConfig wording files' config'))
    {rows : String} {categories : Option String} (hrows : files rows = files' rows)
    (hcategories : ∀ path ∈ categories, files path = files' path) (output : Output) (quiet : Bool)
    (append append' : Bool) :
    Invocation.run wording files ⟨output, quiet, config, .dictionary rows categories append⟩ =
      Invocation.run wording files'
        ⟨output, quiet, config', .dictionary rows categories append'⟩ := by
  have hresult :
      Invocation.result wording files ⟨output, quiet, config, .dictionary rows categories append⟩ =
        Invocation.result wording files'
          ⟨output, quiet, config', .dictionary rows categories append'⟩ := by
    simp only [Invocation.result, Command.run, runDictionary_eq,
      fileSource_congr wording hrows hcategories]
    generalize loadConfig wording files config = attempt at hconfig
    generalize loadConfig wording files' config' = attempt' at hconfig
    cases hconfig with
    | failed reason => rfl
    | loaded config mode =>
      have hcatalog := Source.catalog_withMode mode config.dictionary
        (fileSource wording files' rows categories)
      simp only [bind, Except.bind, Config.withMode, hcatalog]
  rw [Invocation.run, Invocation.run, hresult]

theorem hasFlag_append : dictionaryLevel.HasFlag "append" where
  flag := by decide
  known := by decide
  no_question := by decide

theorem dictionary?_eq (given : Given) :
    dictionary? given = (given.lookup "rows").map fun rows =>
      .dictionary rows (given.lookup "categories") (given.has "append") := by
  rw [dictionary?]
  cases List.lookup "rows" given <;> rfl

/-- Behind the command, the flag that asks for adding categories changes no run. -/
theorem run_append_flag (wording : Wording) (files : Files) (outer : List Given)
    {args : List String} (hargs : "--append" ∉ args) :
    (rootLeaf outer "dictionary" ("--append" :: args)).run wording files =
      (rootLeaf outer "dictionary" args).run wording files := by
  have hread : dictionaryLevel.read ("--append" :: args) =
      (dictionaryLevel.read args).withFlag "append" := by
    apply Level.read_flag_cons hasFlag_append (by decide)
    intro a ha hflag
    have hname : a = "--append" := Shape.eq_of_ofArgument_eq_long hflag
    exact hargs (hname ▸ ha)
  have hrows : "rows" ≠ "append" := by decide
  have hcategories : "categories" ≠ "append" := by decide
  have hglobals : "append" ∉ globals.map Opt.name := by decide
  simp only [rootLeaf, leaf, hread]
  cases dictionaryLevel.read args with
  | done given paths =>
    simp only [Scan.withFlag, dictionary?_eq, Given.lookup_withFlag hrows,
      Given.lookup_withFlag hcategories, invocation_withFlag hglobals]
    cases List.lookup "rows" given with
    | none => rfl
    | some rows =>
      exact run_dictionary_of_sameButMode (.refl _) rfl (fun _ _ => rfl) _ _ _ _
  | command | asked | wrong => rfl

end Cli

/-- The mode is not observable in a full catalog. Two layouts that differ in it alone give the same
catalog from any source, whatever fails. So the tool prints the same, and ends alike, under two
configurations that differ in it alone, with the flag that asks for the other mode or without it;
and putting that flag behind the command changes no run. -/
theorem category_mode_is_unobservable :
    (∀ (source : Source) (layout : Layout) (mode : CategoryMode),
      source.catalog { layout with categoryMode := mode } = source.catalog layout) ∧
    (∀ (wording : Cli.Wording) (files files' : Cli.Files) (config config' : Option String)
        (rows : String) (categories : Option String) (output : Cli.Output) (quiet : Bool)
        (append append' : Bool),
      Cli.SameButMode (Cli.loadConfig wording files config)
        (Cli.loadConfig wording files' config') →
      files rows = files' rows → (∀ path ∈ categories, files path = files' path) →
      Cli.Invocation.run wording files ⟨output, quiet, config, .dictionary rows categories append⟩ =
        Cli.Invocation.run wording files'
          ⟨output, quiet, config', .dictionary rows categories append'⟩) ∧
    (∀ (wording : Cli.Wording) (files : Cli.Files) (outer : List Cli.Given) (args : List String),
      "--append" ∉ args →
      (Cli.rootLeaf outer "dictionary" ("--append" :: args)).run wording files =
        (Cli.rootLeaf outer "dictionary" args).run wording files) := by
  refine ⟨?_, ?_, ?_⟩
  · exact fun source layout mode => source.catalog_withMode mode layout
  · intro wording files files' config config' rows categories output quiet append append' hconfig
      hrows hcategories
    exact Cli.run_dictionary_of_sameButMode hconfig hrows hcategories output quiet append append'
  · exact fun wording files outer args hargs => Cli.run_append_flag wording files outer hargs

namespace Cli

/-- A configuration of one mode, a table of one variable, and a feed that lists it in two blocks. -/
def filesOfMode (mode : String) : Files := fun path =>
  if path = defaultConfig then .ok ("[dictionary]\ncategory_mode = \"" ++ mode ++ "\"\n")
  else if path = "rows.json" then
    .ok "[[\"1.0\", \"PERSONA\"], [\"1.1\", \"PERSONA\", \"P02\", \"I\"]]"
  else if path = "feed.txt" then
    .ok "Nombre: P02\nEntidad: PERSONA\n1. A\nNombre: P02\nEntidad: PERSONA\n2. B\n"
  else .error .notFound

end Cli

theorem dictionary_page_ignores_mode :
    ("--append" ∉ ["--rows", "rows.json"]) ∧
      Cli.SameButMode (Cli.loadConfig (fun _ => "") (Cli.filesOfMode "replace") none)
        (Cli.loadConfig (fun _ => "") (Cli.filesOfMode "append") none) ∧
      Cli.Invocation.run (fun _ => "") (Cli.filesOfMode "replace")
          ⟨.text, false, none, .dictionary "rows.json" (some "feed.txt") false⟩ =
        Cli.Invocation.run (fun _ => "") (Cli.filesOfMode "append")
          ⟨.text, false, none, .dictionary "rows.json" (some "feed.txt") true⟩ ∧
      (Cli.rootLeaf [] "dictionary" ["--append", "--rows", "rows.json"]).run (fun _ => "")
          (Cli.filesOfMode "replace") =
        (Cli.rootLeaf [] "dictionary" ["--rows", "rows.json"]).run (fun _ => "")
          (Cli.filesOfMode "replace") := by
  have hargs : "--append" ∉ ["--rows", "rows.json"] := by decide
  have hreplace : Cli.loadConfig (fun _ => "") (Cli.filesOfMode "replace") none = .ok {} := by
    decide +kernel
  have happend : Cli.loadConfig (fun _ => "") (Cli.filesOfMode "append") none =
      .ok (({} : Config).withMode .append) := by
    decide +kernel
  have hconfig : Cli.SameButMode (Cli.loadConfig (fun _ => "") (Cli.filesOfMode "replace") none)
      (Cli.loadConfig (fun _ => "") (Cli.filesOfMode "append") none) := by
    rw [hreplace, happend]
    exact .loaded {} .append
  obtain ⟨-, hmode, hflag⟩ := category_mode_is_unobservable
  have hfeed : ∀ path ∈ some "feed.txt",
      Cli.filesOfMode "replace" path = Cli.filesOfMode "append" path := by
    intro path hpath
    obtain rfl := Option.mem_some_iff.mp hpath
    rfl
  exact ⟨hargs, hconfig, hmode _ _ _ _ _ _ _ _ _ _ _ hconfig rfl hfeed, hflag _ _ _ _ hargs⟩

end Census
