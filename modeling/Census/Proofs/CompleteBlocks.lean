import Mathlib
import Census.Proofs.FeedJoin
import Census.Proofs.FeedText
import Census.Proofs.HeaderPairs

/-!
A complete block behind any other text. All of it is read, unless the text in front leaves an
entity field without its name field: that field takes the name of the block for its own.
-/

namespace Census

/-- The last field names an entity and no name field is paired with it. -/
def EndsWithLoneEntity (fields : List HeaderField) : Prop :=
  ∃ run entityName, IsLongestAlternating (run ++ [.entity entityName]) fields ∧ Even run.length

/-- A line of the feed that is read as this category. -/
structure IsCategoryLine (line : String) (c : Category) : Prop where
  one_line : '\n' ∉ line.toList
  shape : FeedLine.classify line.toList = .category c.code c.label

/-- The lines of a block whose category lines are as given. -/
def headedLines (layout : Layout) (entityName variableName : String) (lines : List String) :
    List String :=
  fieldLine layout.nameLabel variableName :: fieldLine layout.entityLabel entityName :: lines

theorem IsLongestAlternating.unique {run run' fields : List HeaderField}
    (h : IsLongestAlternating run fields) (h' : IsLongestAlternating run' fields) : run = run' := by
  have hle : run.length ≤ run'.length := h'.longest run h.suffix h.alternates
  have hge : run'.length ≤ run.length := h.longest run' h'.suffix h'.alternates
  have hsuffix : run <:+ run' := List.suffix_of_suffix_length_le h.suffix h'.suffix hle
  exact hsuffix.eq_of_length (Nat.le_antisymm hle hge)

namespace Header

theorem Leaves.awaits_name_iff {run : List HeaderField} {h : Header} (hl : Leaves run h) :
    (∃ entityName, h = awaiting (some entityName) none) ↔
      ∃ earlier entityName, run = earlier ++ [.entity entityName] ∧ Even earlier.length := by
  have hodd {run : List HeaderField} {f g : HeaderField} (heven : Even run.length)
      {earlier : List HeaderField} {entityName : String}
      (hrun : run ++ [f, g] = earlier ++ [.entity entityName]) : ¬ Even earlier.length := by
    have hlen : run.length + 2 = earlier.length + 1 := by
      simpa using congrArg List.length hrun
    have hlen' : earlier.length = run.length + 1 := by omega
    rw [hlen', Nat.even_add_one, not_not]
    exact heven
  cases hl with
  | nothing => simp
  | half run f heven =>
    cases f with
    | name v => simp [ofField]
    | entity e => simpa [ofField] using heven
  | name_entity run v e heven =>
    simp only [reduceCtorEq, exists_false, false_iff, not_exists, not_and]
    exact fun earlier e' hrun => hodd heven hrun
  | entity_name run e v heven =>
    simp only [reduceCtorEq, exists_false, false_iff, not_exists, not_and]
    exact fun earlier e' hrun => hodd heven hrun

theorem Leaves.startsBlock {run : List HeaderField} {h : Header} (hl : Leaves run h)
    (hno : ¬ ∃ entityName, h = awaiting (some entityName) none) : h.StartsBlock := by
  cases hl with
  | nothing => rfl
  | half run f heven =>
    cases f with
    | name v => rfl
    | entity e => exact absurd ⟨e, rfl⟩ hno
  | name_entity | entity_name => trivial

theorem after_awaits_name_iff (layout : Layout) (lines : List FeedLine) :
    (∃ entityName, after layout lines = awaiting (some entityName) none) ↔
      EndsWithLoneEntity (headerFields layout lines) := by
  obtain ⟨run, hrun, hleft⟩ := exists_leaves_after layout lines
  rw [hleft.awaits_name_iff]
  constructor
  · intro h
    obtain ⟨earlier, entityName, rfl, heven⟩ := h
    exact ⟨earlier, entityName, hrun, heven⟩
  · intro h
    obtain ⟨earlier, entityName, hlongest, heven⟩ := h
    exact ⟨earlier, entityName, hrun.unique hlongest, heven⟩

theorem startsBlock_after {layout : Layout} {lines : List FeedLine}
    (h : ¬ EndsWithLoneEntity (headerFields layout lines)) : (after layout lines).StartsBlock := by
  obtain ⟨run, -, hleft⟩ := exists_leaves_after layout lines
  apply hleft.startsBlock
  rwa [after_awaits_name_iff]

/-- The waiting entity takes the name, and the entity of the block then waits for one in turn. -/
theorem next_fields_of_awaiting {layout : Layout}
    (hdistinct : layout.nameLabel ≠ layout.entityLabel) (waiting entityName variableName : String) :
    ((awaiting (some waiting) none).next layout (.field layout.nameLabel variableName)).next layout
      (.field layout.entityLabel entityName) = awaiting (some entityName) none := by
  simp [next, withVariable, pair, Ne.symm hdistinct, withEntity]

end Header

theorem entriesFrom_categories_of_awaiting (layout : Layout)
    (entityName variableName : Option String) (n : ℕ) (categories : List Category) :
    entriesFrom layout (.awaiting entityName variableName) n
        (categories.map fun c => .category c.code c.label) =
      List.replicate categories.length .skip := by
  induction categories generalizing n with
  | nil => rfl
  | cons c categories ih =>
    have hfirst (later : List FeedLine) :
        entriesFrom layout (.awaiting entityName variableName) n
            (.category c.code c.label :: later) =
          .skip :: entriesFrom layout (.awaiting entityName variableName) (n + 1) later := rfl
    rw [List.map_cons, hfirst, ih, List.length_cons, List.replicate_succ]

theorem Block.entriesFrom_shapes_of_awaiting {layout : Layout}
    (hdistinct : layout.nameLabel ≠ layout.entityLabel) (waiting : String) (n : ℕ) (b : Block) :
    entriesFrom layout (.awaiting (some waiting) none) n (b.shapes layout) =
      List.replicate b.categories.length .skip := by
  rw [shapes, entriesFrom, entriesFrom, Header.next_fields_of_awaiting hdistinct,
    entriesFrom_categories_of_awaiting]
  rfl

theorem IsCategoryLine.ne_empty {line : String} {c : Category} (h : IsCategoryLine line c) :
    line ≠ "" := by
  rintro rfl
  cases h.shape

theorem map_classify_categoryLines {lines : List String} {categories : List Category}
    (h : List.Forall₂ IsCategoryLine lines categories) :
    lines.map (fun line => FeedLine.classify line.toList) =
      categories.map fun c => .category c.code c.label := by
  induction h with
  | nil => rfl
  | cons hline _ ih => rw [List.map_cons, List.map_cons, hline.shape, ih]

theorem one_line_of_mem_categoryLines {lines : List String} {categories : List Category}
    (h : List.Forall₂ IsCategoryLine lines categories) :
    ∀ line ∈ lines, '\n' ∉ line.toList ∧ line ≠ "" := by
  induction h with
  | nil => simp
  | cons hline _ ih => exact List.forall_mem_cons.mpr ⟨⟨hline.one_line, hline.ne_empty⟩, ih⟩

theorem fieldLine_ne_empty (label value : String) : fieldLine label value ≠ "" := by
  intro h
  have hchars := congrArg String.toList h
  rw [toList_fieldLine] at hchars
  simp at hchars

/-- A block is read by its shapes, however its category lines are spaced and ended. -/
theorem feedLines_headedLines {layout : Layout} (hlayout : layout.Readable) {b : Block}
    (hentity : Text.IsTrimmed b.entityName ∧ '\n' ∉ b.entityName.toList)
    (hvariable : Text.IsTrimmed b.variableName ∧ '\n' ∉ b.variableName.toList)
    {lines : List String} (hlines : List.Forall₂ IsCategoryLine lines b.categories) (ended : Bool) :
    feedLines (linesText (headedLines layout b.entityName b.variableName lines) ended) =
      b.shapes layout := by
  have hname := isLine_fieldLine hlayout.name hvariable.1 hvariable.2
  have hentityLine := isLine_fieldLine hlayout.entity hentity.1 hentity.2
  rw [headedLines, feedLines_linesText (List.cons_ne_nil _ _)]
  · rw [List.map_cons, List.map_cons, classify_fieldLine hlayout.name hvariable.1,
      classify_fieldLine hlayout.entity hentity.1, map_classify_categoryLines hlines, Block.shapes]
  · intro line hline
    rw [List.mem_cons, List.mem_cons] at hline
    rcases hline with rfl | rfl | hline
    · exact ⟨hname.1, fieldLine_ne_empty _ _⟩
    · exact ⟨hentityLine.1, fieldLine_ne_empty _ _⟩
    · exact one_line_of_mem_categoryLines hlines line hline

theorem CategoryMode.exists_merge_append (mode : CategoryMode) (old given new : List Category) :
    ∃ earlier, mode.merge old (given ++ new) = earlier ++ new := by
  cases mode with
  | append => exact ⟨old ++ given, by rw [merge, List.append_assoc]⟩
  | replace =>
    rw [merge]
    split_ifs with hnone
    · exact ⟨old, by simp [(List.append_eq_nil_iff.mp hnone).2]⟩
    · exact ⟨given, rfl⟩

theorem Dictionary.NamesDistinct.categories?_filled {d : Dictionary} (hd : d.NamesDistinct)
    (mode : CategoryMode) (attachments : List Attachment) {e : Entity} (he : e ∈ d.entities)
    {v : Variable} (hv : v ∈ e.vars) :
    (d.filled mode attachments).categories? e.name v.name =
      some (mode.merge v.categories (categoriesFor attachments e.name v.name)) := by
  apply (hd.mapCategories _).categories?_eq_some_iff.mpr
  exact ⟨_, List.mem_map_of_mem he, rfl, _, List.mem_map_of_mem hv, rfl, rfl⟩

/-- Entries behind those of an accepted text are accepted as well when they name variables that are
there. -/
theorem attach_of_feedEntries {d : Dictionary} (hd : d.NamesDistinct) {layout : Layout}
    {before text : String} {entries : List Entry}
    (hentries : feedEntries layout text = feedEntries layout before ++ entries)
    {filled : Dictionary} {report : Report}
    (hbefore : d.attach layout before = .ok (filled, report))
    (hall : ∀ a ∈ entries.filterMap Entry.attachment?, d.Declares a.entityName a.variableName) :
    d.attach layout text =
      .ok (d.filled layout.categoryMode
          (inBlockLines layout before ++ entries.filterMap Entry.attachment?),
        ⟨report.attached + (entries.filterMap Entry.attachment?).length,
          report.skipped + entries.count .skip⟩) := by
  obtain ⟨hdeclared, -, rfl⟩ := (Dictionary.attach_eq_ok_iff hd).mp hbefore
  have hinBlock := inBlockLines_of_feedEntries hentries
  apply (Dictionary.attach_eq_ok_iff hd).mpr
  rw [hinBlock]
  refine ⟨?_, rfl, (feedReport_of_feedEntries hentries).symm⟩
  intro a ha
  rcases List.mem_append.mp ha with ha | ha
  · exact hdeclared a ha
  · exact hall a ha

theorem Dictionary.NamesDistinct.exists_categories?_filled {d : Dictionary} (hd : d.NamesDistinct)
    (mode : CategoryMode) (attachments : List Attachment) (n : ℕ) {e : Entity} (he : e ∈ d.entities)
    {v : Variable} (hv : v ∈ e.vars) (categories : List Category) :
    ∃ earlier, (d.filled mode (attachments ++
        Block.attachments n ⟨e.name, v.name, categories⟩)).categories? e.name v.name =
      some (earlier ++ categories) := by
  rw [hd.categories?_filled _ _ he hv, categoriesFor_append, categoriesFor_attachments,
    if_pos ⟨rfl, rfl⟩]
  obtain ⟨earlier, hearlier⟩ := mode.exists_merge_append v.categories
    (categoriesFor attachments e.name v.name) categories
  exact ⟨earlier, congrArg some hearlier⟩

/-- A block for a variable that is there, put behind a text that is accepted, is accepted too. It is
read as a whole, line for line, unless the text ends with a lone entity field; then every line of
the block is skipped, and nothing else changes. -/
theorem attach_block_behind {built : Layout} {d : Dictionary} (hd : d.Reachable built)
    {layout : Layout} (hlayout : layout.Readable) {before : String} (hends : EndsLines before)
    {filled : Dictionary} {report : Report}
    (hbefore : d.attach layout before = .ok (filled, report)) {e : Entity} (he : e ∈ d.entities)
    {v : Variable} (hv : v ∈ e.vars) (hnames : '\n' ∉ e.name.toList ∧ '\n' ∉ v.name.toList)
    {lines : List String} {categories : List Category}
    (hlines : List.Forall₂ IsCategoryLine lines categories) (ended : Bool) :
    (¬ EndsWithLoneEntity (headerFields layout (feedLines before)) →
      ∃ whole, d.attach layout
          (before ++ linesText (headedLines layout e.name v.name lines) ended) =
            .ok (whole, ⟨report.attached + categories.length, report.skipped⟩) ∧
        inBlockLines layout
          (before ++ linesText (headedLines layout e.name v.name lines) ended) =
            inBlockLines layout before ++
              attachmentsFrom ((feedLines before).length + 3) e.name v.name categories ∧
        ∃ earlier, whole.categories? e.name v.name = some (earlier ++ categories)) ∧
    (EndsWithLoneEntity (headerFields layout (feedLines before)) →
      d.attach layout (before ++ linesText (headedLines layout e.name v.name lines) ended) =
        .ok (filled, ⟨report.attached, report.skipped + categories.length⟩)) := by
  have hdistinct := hd.namesDistinct
  have hentity := hd.wellFormed.entities e he
  have hvariable := hentity.vars v hv
  let b : Block := ⟨e.name, v.name, categories⟩
  have hshapes : feedLines (linesText (headedLines layout e.name v.name lines) ended) =
      b.shapes layout :=
    feedLines_headedLines (b := b) hlayout ⟨hentity.name_trimmed, hnames.1⟩
      ⟨hvariable.name_trimmed, hnames.2⟩ hlines ended
  have hentries := feedEntries_append hends layout
    (linesText (headedLines layout e.name v.name lines) ended)
  rw [hshapes] at hentries
  refine ⟨?_, ?_⟩
  · intro hlone
    rw [Block.entriesFrom_shapes hlayout.distinct (Header.startsBlock_after hlone)] at hentries
    have hattach := attach_of_feedEntries hdistinct hentries hbefore
    have hinBlock := inBlockLines_of_feedEntries hentries
    rw [filterMap_attachment?_attach] at hattach hinBlock
    have hall : ∀ a ∈ b.attachments ((feedLines before).length + 1),
        d.Declares a.entityName a.variableName := by
      intro a ha
      obtain ⟨hentityName, hvariableName⟩ := Block.names_of_mem_attachments ha
      exact ⟨e, he, hentityName.symm, v, hv, hvariableName.symm⟩
    have hlength : (b.attachments ((feedLines before).length + 1)).length = categories.length := by
      simp [Block.attachments, attachmentsFrom, b]
    have hwhole := hattach hall
    rw [count_skip_attach, hlength] at hwhole
    exact ⟨_, hwhole, hinBlock, hdistinct.exists_categories?_filled _ _ _ he hv categories⟩
  · intro hlone
    obtain ⟨waiting, hwaiting⟩ := (Header.after_awaits_name_iff layout _).mpr hlone
    rw [hwaiting, Block.entriesFrom_shapes_of_awaiting hlayout.distinct] at hentries
    have hwhole := attach_of_feedEntries hdistinct hentries hbefore
    rw [filterMap_attachment?_skip, List.count_replicate_self, List.append_nil] at hwhole
    obtain ⟨-, hfilled, -⟩ := (Dictionary.attach_eq_ok_iff hdistinct).mp hbefore
    rw [hfilled]
    exact hwhole (by simp)

theorem readable_defaultLabels : ({} : Layout).Readable where
  distinct := by decide
  name := ⟨by decide, by decide, by decide, by decide⟩
  entity := ⟨by decide, by decide, by decide, by decide⟩

/-- The text in front leaves a name without its entity; the category lines are spaced freely, and
the last one has no end. -/
theorem provinceCensus_block_behind :
    EndsLines "9. Otro\nNombre : P03\n" ∧
      ¬ EndsWithLoneEntity (headerFields {} (feedLines "9. Otro\nNombre : P03\n")) ∧
      provinceCensus.attach {} "9. Otro\nNombre : P03\n" = .ok (provinceCensus, ⟨0, 1⟩) ∧
      ∃ whole, provinceCensus.attach {} ("9. Otro\nNombre : P03\n" ++
          linesText (headedLines {} "PERSONA" "P02" [" 1 .Varón\r", "2. Mujer"]) false) =
            .ok (whole, ⟨2, 1⟩) ∧
        ∃ earlier, whole.categories? "PERSONA" "P02" =
          some (earlier ++ [⟨"1", "Varón"⟩, ⟨"2", "Mujer"⟩]) := by
  have hends : EndsLines "9. Otro\nNombre : P03\n" := by simp [EndsLines]
  have hbefore : provinceCensus.attach {} "9. Otro\nNombre : P03\n" =
      .ok (provinceCensus, ⟨0, 1⟩) := by
    decide
  have hlone : ¬ EndsWithLoneEntity (headerFields {} (feedLines "9. Otro\nNombre : P03\n")) := by
    have hafter : Header.after {} (feedLines "9. Otro\nNombre : P03\n") =
        .awaiting none (some "P03") := by
      decide
    rw [← Header.after_awaits_name_iff, hafter]
    simp
  have hlines : List.Forall₂ IsCategoryLine [" 1 .Varón\r", "2. Mujer"]
      [⟨"1", "Varón"⟩, ⟨"2", "Mujer"⟩] :=
    .cons ⟨by decide, by decide⟩ (.cons ⟨by decide, by decide⟩ .nil)
  obtain ⟨whole, hwhole, -, hcategories⟩ := (attach_block_behind reachable_provinceCensus
    readable_defaultLabels hends hbefore (e := ⟨"2", "PERSONA", .data, [⟨"P02", "I", []⟩]⟩)
    (by decide) (v := ⟨"P02", "I", []⟩) (by decide) (by decide) hlines false).1 hlone
  exact ⟨hends, hlone, hbefore, whole, hwhole, hcategories⟩

/-- A lone entity field in front of a complete block: its entity takes the name of the block. -/
theorem lone_entity_field_hides_block :
    provinceCensus.Reachable {} ∧ EndsLines "Entidad : PERSONA\n" ∧
      provinceCensus.attach {} "Entidad : PERSONA\n" = .ok (provinceCensus, ⟨0, 0⟩) ∧
      IsCategoryLine "1. Varón" ⟨"1", "Varón"⟩ ∧
      headedLines {} "PERSONA" "P02" ["1. Varón"] =
        ["Nombre : P02", "Entidad : PERSONA", "1. Varón"] ∧
      provinceCensus.attach {} "Entidad : PERSONA\nNombre : P02\nEntidad : PERSONA\n1. Varón\n" =
        .ok (provinceCensus, ⟨0, 1⟩) ∧
      provinceCensus.categories? "PERSONA" "P02" = some [] := by
  have hends : EndsLines "Entidad : PERSONA\n" := by simp [EndsLines]
  have hline : IsCategoryLine "1. Varón" ⟨"1", "Varón"⟩ := ⟨by decide, by decide⟩
  exact ⟨reachable_provinceCensus, hends, by decide, hline, by decide, by decide, by decide⟩

end Census
