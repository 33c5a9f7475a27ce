import Mathlib
import Census.Proofs.FeedComposition

/-!
Writing categories as a feed. The feed of a dictionary has one block for each variable that has
categories, and a dictionary of the same names reads it back.
-/

namespace Census

/-- A text that can serve as the label of a header field. -/
structure IsLabel (label : String) : Prop where
  trimmed : Text.IsTrimmed label
  colon : ':' ∉ label.toList
  point : '.' ∉ label.toList
  line : '\n' ∉ label.toList

/-- The two header fields can be told from each other and from category lines. -/
structure Layout.Readable (layout : Layout) : Prop where
  distinct : layout.nameLabel ≠ layout.entityLabel
  name : IsLabel layout.nameLabel
  entity : IsLabel layout.entityLabel

/-- A header and the categories under it. -/
structure Block where
  entityName : String
  variableName : String
  categories : List Category
  deriving DecidableEq, Repr

def fieldLine (label value : String) : String :=
  label ++ " : " ++ value

def Category.line (c : Category) : String :=
  c.code ++ ". " ++ c.label

def Block.lines (layout : Layout) (b : Block) : List String :=
  fieldLine layout.nameLabel b.variableName :: fieldLine layout.entityLabel b.entityName ::
    b.categories.map Category.line

/-- The text of some blocks, each line with its end. -/
def blocksText (layout : Layout) (blocks : List Block) : String :=
  String.join ((blocks.flatMap (Block.lines layout)).map fun line => line ++ "\n")

/-- One block for each variable that has categories, in order. -/
def Dictionary.blocks (d : Dictionary) : List Block :=
  d.entities.flatMap fun e =>
    (e.vars.filter fun v => v.categories ≠ []).map fun v => ⟨e.name, v.name, v.categories⟩

def Dictionary.feedText (layout : Layout) (d : Dictionary) : String :=
  blocksText layout d.blocks

def Dictionary.emptied (d : Dictionary) : Dictionary :=
  d.mapCategories fun _ _ _ => []

def Dictionary.categoryCount (d : Dictionary) : ℕ :=
  (d.entities.flatMap fun e => e.vars.flatMap Variable.categories).length

/-- Names that stand on one line each, and categories that a feed can hold. -/
structure Block.Readable (b : Block) : Prop where
  entity_trimmed : Text.IsTrimmed b.entityName
  entity_line : '\n' ∉ b.entityName.toList
  variable_trimmed : Text.IsTrimmed b.variableName
  variable_line : '\n' ∉ b.variableName.toList
  categories : ∀ c ∈ b.categories, c.WellFormed

theorem isBlank_space : ∀ b ∈ [' '], Text.isBlank b = true := by
  intro b hb
  obtain rfl := List.mem_singleton.mp hb
  rfl

theorem trimmed_blank_cons {s : String} (h : Text.IsTrimmed s) : trimmed (' ' :: s.toList) = s := by
  rw [← List.singleton_append, trimmed, Text.trimChars_blank_append isBlank_space, ← trimmed,
    trimmed_of_isTrimmed h]

theorem trimmed_append_blank {s : String} (h : Text.IsTrimmed s) :
    trimmed (s.toList ++ [' ']) = s := by
  rw [trimmed, Text.trimChars_append_blank isBlank_space, ← trimmed, trimmed_of_isTrimmed h]

theorem toList_fieldLine (label value : String) :
    (fieldLine label value).toList = (label.toList ++ [' ']) ++ ':' :: ' ' :: value.toList := by
  simp [fieldLine]

theorem Category.toList_line (c : Category) :
    c.line.toList = c.code.toList ++ '.' :: ' ' :: c.label.toList := by
  simp [line]

theorem classify_fieldLine {label value : String} (hlabel : IsLabel label)
    (hvalue : Text.IsTrimmed value) :
    FeedLine.classify (fieldLine label value).toList = .field label value := by
  have hcolon : ':' ∉ label.toList ++ [' '] := by simpa using hlabel.colon
  have hpoint : '.' ∉ label.toList ++ [' '] := by simpa using hlabel.point
  rw [toList_fieldLine, FeedLine.classify_of_colon hcolon hpoint,
    trimmed_append_blank hlabel.trimmed, trimmed_blank_cons hvalue]

theorem Category.classify_line {c : Category} (hc : c.WellFormed) :
    FeedLine.classify c.line.toList = .category c.code c.label := by
  obtain ⟨hpoint, hcolon, -⟩ := hc.code_chars
  rw [toList_line, FeedLine.classify_of_point hcolon hpoint, trimmed_of_isTrimmed hc.code_trimmed,
    trimmed_blank_cons hc.label_trimmed, if_neg hc.code_ne]

/-- A line that the line splitter gives back as it was written. -/
def IsLine (s : String) : Prop :=
  '\n' ∉ s.toList ∧ s.toList.getLast? ≠ some '\r'

/-- A carriage return is a blank, so no trimmed text ends with one. -/
theorem getLast?_ne_cr {s : String} (h : Text.IsTrimmed s) (front : List Char) :
    (front ++ ' ' :: s.toList).getLast? ≠ some '\r' := by
  intro hlast
  cases hs : s.toList.getLast? with
  | none => simp [List.getLast?_eq_none_iff.mp hs] at hlast
  | some c =>
    have hblank : Text.isBlank c = false := h.last c hs
    have hend : (front ++ ' ' :: s.toList).getLast? = some c := by
      rw [List.getLast?_append, List.getLast?_cons, hs]
      rfl
    obtain rfl : c = '\r' := Option.some.inj (hend.symm.trans hlast)
    exact absurd hblank (by decide)

theorem isLine_fieldLine {label value : String} (hlabel : IsLabel label)
    (hvalue : Text.IsTrimmed value) (hline : '\n' ∉ value.toList) :
    IsLine (fieldLine label value) := by
  refine ⟨?_, ?_⟩
  · rw [toList_fieldLine]
    simp [hlabel.line, hline]
  · have hlast := getLast?_ne_cr hvalue (label.toList ++ [' ', ':'])
    simpa [toList_fieldLine] using hlast

theorem Category.isLine_line {c : Category} (hc : c.WellFormed) : IsLine c.line := by
  refine ⟨?_, ?_⟩
  · rw [toList_line]
    simp [hc.code_chars.2.2, hc.label_line]
  · have hlast := getLast?_ne_cr hc.label_trimmed (c.code.toList ++ ['.'])
    simpa [toList_line] using hlast

namespace Block

/-- What the lines of a block are read as. -/
def shapes (layout : Layout) (b : Block) : List FeedLine :=
  .field layout.nameLabel b.variableName :: .field layout.entityLabel b.entityName ::
    b.categories.map fun c => .category c.code c.label

theorem map_classify_lines {layout : Layout} (hlayout : layout.Readable) {b : Block}
    (hb : b.Readable) :
    (b.lines layout).map (fun line => FeedLine.classify line.toList) = b.shapes layout := by
  have hcategories :
      (b.categories.map Category.line).map (fun line => FeedLine.classify line.toList) =
        b.categories.map fun c => .category c.code c.label := by
    rw [List.map_map]
    apply List.map_congr_left
    intro c hc
    exact Category.classify_line (hb.categories c hc)
  rw [lines, List.map_cons, List.map_cons, classify_fieldLine hlayout.name hb.variable_trimmed,
    classify_fieldLine hlayout.entity hb.entity_trimmed, hcategories, shapes]

theorem isLine_of_mem_lines {layout : Layout} (hlayout : layout.Readable) {b : Block}
    (hb : b.Readable) : ∀ line ∈ b.lines layout, IsLine line := by
  intro line hline
  rw [lines, List.mem_cons, List.mem_cons, List.mem_map] at hline
  rcases hline with rfl | rfl | ⟨c, hc, rfl⟩
  · exact isLine_fieldLine hlayout.name hb.variable_trimmed hb.variable_line
  · exact isLine_fieldLine hlayout.entity hb.entity_trimmed hb.entity_line
  · exact Category.isLine_line (hb.categories c hc)

end Block

theorem toList_blocksText (layout : Layout) (blocks : List Block) :
    (blocksText layout blocks).toList =
      ((blocks.flatMap (Block.lines layout)).map String.toList).flatMap
        fun line => line ++ ['\n'] := by
  simp [blocksText, List.flatMap_map]

theorem feedLines_blocksText {layout : Layout} (hlayout : layout.Readable) {blocks : List Block}
    (hblocks : ∀ b ∈ blocks, b.Readable) :
    feedLines (blocksText layout blocks) = blocks.flatMap (Block.shapes layout) := by
  have hlines : ∀ line ∈ (blocks.flatMap (Block.lines layout)).map String.toList,
      '\n' ∉ line ∧ line.getLast? ≠ some '\r' := by
    intro line hline
    obtain ⟨s, hs, rfl⟩ := List.mem_map.mp hline
    obtain ⟨b, hb, hs⟩ := List.mem_flatMap.mp hs
    exact Block.isLine_of_mem_lines hlayout (hblocks b hb) s hs
  rw [feedLines, toList_blocksText, Text.lines_flatMap_newline hlines, List.map_map,
    List.map_flatMap]
  apply List.flatMap_congr
  intro b hb
  exact Block.map_classify_lines hlayout (hblocks b hb)

/-- No entity is named that the next name field would be paired with. -/
def Header.StartsBlock : Header → Prop
  | .awaiting entityName _ => entityName = none
  | .block _ _ => True

theorem Header.next_fields {layout : Layout} (hdistinct : layout.nameLabel ≠ layout.entityLabel)
    {h : Header} (hh : h.StartsBlock) (entityName variableName : String) :
    (h.next layout (.field layout.nameLabel variableName)).next layout
      (.field layout.entityLabel entityName) = .block entityName variableName := by
  have hname : h.next layout (.field layout.nameLabel variableName) =
      .awaiting none (some variableName) := by
    cases h with
    | awaiting e v =>
      obtain rfl : e = none := hh
      simp [next, withVariable, pair]
    | block e v => simp [next, withVariable]
  rw [hname]
  simp [next, Ne.symm hdistinct, withEntity, pair]

/-- The attachments of categories that stand under one header, the first on line `n`. -/
def attachmentsFrom (n : ℕ) (entityName variableName : String) (categories : List Category) :
    List Attachment :=
  categories.mapIdx fun i c => ⟨n + i, entityName, variableName, c⟩

theorem entriesFrom_categories (layout : Layout) (entityName variableName : String) (n : ℕ)
    (categories : List Category) :
    entriesFrom layout (.block entityName variableName) n
        (categories.map fun c => .category c.code c.label) =
      (attachmentsFrom n entityName variableName categories).map .attach := by
  induction categories generalizing n with
  | nil => rfl
  | cons c categories ih =>
    have hfirst (later : List FeedLine) :
        entriesFrom layout (.block entityName variableName) n (.category c.code c.label :: later) =
          .attach ⟨n, entityName, variableName, c⟩ ::
            entriesFrom layout (.block entityName variableName) (n + 1) later := rfl
    have hcons : attachmentsFrom n entityName variableName (c :: categories) =
        ⟨n, entityName, variableName, c⟩ ::
          attachmentsFrom (n + 1) entityName variableName categories := by
      simp [attachmentsFrom, Nat.add_assoc, Nat.add_comm 1]
    rw [List.map_cons, hfirst, ih (n + 1), hcons, List.map_cons]

namespace Block

theorem length_shapes (layout : Layout) (b : Block) :
    (b.shapes layout).length = b.categories.length + 2 := by
  simp [shapes]

theorem header_after_shapes {layout : Layout} (hdistinct : layout.nameLabel ≠ layout.entityLabel)
    {h : Header} (hh : h.StartsBlock) (b : Block) :
    (b.shapes layout).foldl (Header.next layout) h = .block b.entityName b.variableName := by
  rw [shapes, List.foldl_cons, List.foldl_cons, Header.next_fields hdistinct hh, List.foldl_map]
  exact List.foldl_fixed b.categories

/-- The attachments of a block whose first line has number `n`. -/
def attachments (n : ℕ) (b : Block) : List Attachment :=
  attachmentsFrom (n + 2) b.entityName b.variableName b.categories

theorem entriesFrom_shapes {layout : Layout} (hdistinct : layout.nameLabel ≠ layout.entityLabel)
    {h : Header} (hh : h.StartsBlock) (n : ℕ) (b : Block) :
    entriesFrom layout h n (b.shapes layout) = (b.attachments n).map .attach := by
  rw [shapes, entriesFrom, entriesFrom, Header.next_fields hdistinct hh, entriesFrom_categories]
  rfl

end Block

/-- The attachments of blocks that follow each other, the first from line `n`. -/
def blockAttachments (n : ℕ) : List Block → List Attachment
  | [] => []
  | b :: later => b.attachments n ++ blockAttachments (n + (b.categories.length + 2)) later

theorem entriesFrom_blocks {layout : Layout} (hdistinct : layout.nameLabel ≠ layout.entityLabel)
    {h : Header} (hh : h.StartsBlock) (n : ℕ) (blocks : List Block) :
    entriesFrom layout h n (blocks.flatMap (Block.shapes layout)) =
      (blockAttachments n blocks).map .attach := by
  -- Each block leaves its own header, which the next one replaces.
  induction blocks generalizing h n with
  | nil => rfl
  | cons b blocks ih =>
    have hnext : Header.StartsBlock (.block b.entityName b.variableName) := trivial
    rw [List.flatMap_cons, entriesFrom_append, Block.entriesFrom_shapes hdistinct hh,
      Block.header_after_shapes hdistinct hh, ih hnext, Block.length_shapes, blockAttachments,
      List.map_append]

theorem feedEntries_blocksText {layout : Layout} (hlayout : layout.Readable) {blocks : List Block}
    (hblocks : ∀ b ∈ blocks, b.Readable) :
    feedEntries layout (blocksText layout blocks) = (blockAttachments 1 blocks).map .attach := by
  have hstart : Header.StartsBlock (.awaiting none none) := rfl
  rw [feedEntries, feedLines_blocksText hlayout hblocks, entriesFrom_blocks hlayout.distinct hstart]

theorem inBlockLines_blocksText {layout : Layout} (hlayout : layout.Readable)
    {blocks : List Block} (hblocks : ∀ b ∈ blocks, b.Readable) :
    inBlockLines layout (blocksText layout blocks) = blockAttachments 1 blocks := by
  rw [← attachments_feedEntries, feedEntries_blocksText hlayout hblocks,
    filterMap_attachment?_attach]

theorem feedReport_blocksText {layout : Layout} (hlayout : layout.Readable)
    {blocks : List Block} (hblocks : ∀ b ∈ blocks, b.Readable) :
    feedReport layout (blocksText layout blocks) = ⟨(blockAttachments 1 blocks).length, 0⟩ := by
  have hskip : (feedEntries layout (blocksText layout blocks)).count .skip = 0 := by
    rw [feedEntries_blocksText hlayout hblocks, count_skip_attach]
  rw [feedReport, inBlockLines_blocksText hlayout hblocks, ← count_skip_feedEntries, hskip]

theorem Block.map_category_attachments (n : ℕ) (b : Block) :
    (b.attachments n).map Attachment.category = b.categories := by
  apply List.ext_getElem
  · simp [attachments, attachmentsFrom]
  · intro i hi hi'
    simp [attachments, attachmentsFrom]

theorem Block.names_of_mem_attachments {n : ℕ} {b : Block} {a : Attachment}
    (h : a ∈ b.attachments n) : a.Names b.entityName b.variableName := by
  obtain ⟨i, hi, rfl⟩ := List.mem_mapIdx.mp h
  exact ⟨rfl, rfl⟩

theorem length_blockAttachments (n : ℕ) (blocks : List Block) :
    (blockAttachments n blocks).length = (blocks.flatMap Block.categories).length := by
  induction blocks generalizing n with
  | nil => rfl
  | cons b blocks ih =>
    simp [blockAttachments, ih, Block.attachments, attachmentsFrom]

theorem exists_block_of_mem_blockAttachments {n : ℕ} {blocks : List Block} {a : Attachment}
    (h : a ∈ blockAttachments n blocks) :
    ∃ b ∈ blocks, a.Names b.entityName b.variableName := by
  induction blocks generalizing n with
  | nil => cases h
  | cons b blocks ih =>
    rcases List.mem_append.mp h with h | h
    · exact ⟨b, List.mem_cons_self, Block.names_of_mem_attachments h⟩
    · obtain ⟨b', hb', hnames⟩ := ih h
      exact ⟨b', List.mem_cons_of_mem b hb', hnames⟩

/-- The attachments of one block all name the same variable. -/
theorem categoriesFor_attachments (n : ℕ) (b : Block) (entityName variableName : String) :
    categoriesFor (b.attachments n) entityName variableName =
      if b.entityName = entityName ∧ b.variableName = variableName then b.categories else [] := by
  split_ifs with hb
  · obtain ⟨rfl, rfl⟩ := hb
    have hall : ∀ a ∈ b.attachments n, decide (a.Names b.entityName b.variableName) = true :=
      fun a ha => decide_eq_true (Block.names_of_mem_attachments ha)
    rw [categoriesFor, List.filter_eq_self.mpr hall, Block.map_category_attachments]
  · rw [categoriesFor, List.map_eq_nil_iff, List.filter_eq_nil_iff]
    intro a ha hnames
    obtain ⟨he, hv⟩ := Block.names_of_mem_attachments ha
    obtain ⟨he', hv'⟩ := of_decide_eq_true hnames
    exact hb ⟨he.symm.trans he', hv.symm.trans hv'⟩

theorem categoriesFor_blockAttachments (n : ℕ) (blocks : List Block)
    (entityName variableName : String) :
    categoriesFor (blockAttachments n blocks) entityName variableName =
      blocks.flatMap fun b =>
        if b.entityName = entityName ∧ b.variableName = variableName then b.categories else [] := by
  induction blocks generalizing n with
  | nil => rfl
  | cons b blocks ih =>
    rw [blockAttachments, categoriesFor_append, categoriesFor_attachments, ih, List.flatMap_cons]

/-- Under distinct keys, what is taken from the elements of one key is taken from one element. -/
theorem flatMap_ite_key_eq {α β : Type} {key : α → String} {as : List α} (h : (as.map key).Nodup)
    {a : α} (ha : a ∈ as) (f : α → List β) :
    (as.flatMap fun b => if key b = key a then f b else []) = f a := by
  induction as with
  | nil => cases ha
  | cons b as ih =>
    obtain ⟨hnot, hnodup⟩ := List.nodup_cons.mp h
    rw [List.flatMap_cons]
    rcases List.mem_cons.mp ha with rfl | ha
    · have hlater : (as.flatMap fun b => if key b = key a then f b else []) = [] := by
        rw [List.flatMap_eq_nil_iff]
        intro b hb
        have hkey : key b ≠ key a := fun he => hnot (he ▸ List.mem_map_of_mem hb)
        rw [if_neg hkey]
      rw [if_pos rfl, hlater, List.append_nil]
    · have hkey : key b ≠ key a := fun he => hnot (he ▸ List.mem_map_of_mem ha)
      rw [if_neg hkey, List.nil_append, ih hnodup ha]

namespace Dictionary

theorem mem_blocks_iff {d : Dictionary} {b : Block} :
    b ∈ d.blocks ↔
      ∃ e ∈ d.entities, ∃ v ∈ e.vars, v.categories ≠ [] ∧ b = ⟨e.name, v.name, v.categories⟩ := by
  simp only [blocks, List.mem_flatMap, List.mem_map, List.mem_filter, decide_eq_true_eq]
  constructor
  · intro h
    obtain ⟨e, he, v, ⟨hv, hne⟩, rfl⟩ := h
    exact ⟨e, he, v, hv, hne, rfl⟩
  · intro h
    obtain ⟨e, he, v, hv, hne, rfl⟩ := h
    exact ⟨e, he, v, ⟨hv, hne⟩, rfl⟩

/-- Variables without categories, which have no block, make no difference to what a function
collects that finds nothing in them. -/
theorem flatMap_blocks {β : Type} (d : Dictionary) {f : Block → List β}
    (hf : ∀ e v, f ⟨e, v, []⟩ = []) :
    d.blocks.flatMap f =
      d.entities.flatMap fun e => e.vars.flatMap fun v => f ⟨e.name, v.name, v.categories⟩ := by
  rw [blocks, List.flatMap_assoc]
  apply List.flatMap_congr
  intro e _
  rw [List.flatMap_map]
  induction e.vars with
  | nil => rfl
  | cons v vars ih =>
    rw [List.filter_cons, List.flatMap_cons]
    by_cases hv : v.categories = []
    · simpa [hv, hf] using ih
    · simpa [hv] using ih

theorem length_categories_blocks (d : Dictionary) :
    (d.blocks.flatMap Block.categories).length = d.categoryCount := by
  rw [flatMap_blocks d fun _ _ => rfl, categoryCount]

theorem WellFormed.readable_of_mem_blocks {built : Layout} {d : Dictionary}
    (hd : d.WellFormed built)
    (hnames : ∀ e ∈ d.entities, '\n' ∉ e.name.toList ∧ ∀ v ∈ e.vars, '\n' ∉ v.name.toList) :
    ∀ b ∈ d.blocks, b.Readable := by
  intro b hb
  obtain ⟨e, he, v, hv, -, rfl⟩ := mem_blocks_iff.mp hb
  have hentity := hd.entities e he
  have hvariable := hentity.vars v hv
  exact {
    entity_trimmed := hentity.name_trimmed
    entity_line := (hnames e he).1
    variable_trimmed := hvariable.name_trimmed
    variable_line := (hnames e he).2 v hv
    categories := hvariable.categories }

theorem NamesDistinct.categoriesFor_blocks {d : Dictionary} (hd : d.NamesDistinct) (n : ℕ)
    {e : Entity} (he : e ∈ d.entities) {v : Variable} (hv : v ∈ e.vars) :
    categoriesFor (blockAttachments n d.blocks) e.name v.name = v.categories := by
  rw [categoriesFor_blockAttachments, flatMap_blocks]
  · have hentity (e' : Entity) :
        (e'.vars.flatMap fun v' =>
          if e'.name = e.name ∧ v'.name = v.name then v'.categories else []) =
        if e'.name = e.name then
          e'.vars.flatMap fun v' => if v'.name = v.name then v'.categories else []
        else [] := by
      by_cases hname : e'.name = e.name <;> simp [hname]
    simp only [hentity]
    rw [flatMap_ite_key_eq hd.entities he, flatMap_ite_key_eq (hd.vars e he) hv]
  · intro e' v'
    simp

/-- Every block of a dictionary names a variable that is there. -/
theorem declares_of_mem_blockAttachments {d : Dictionary} {n : ℕ} {a : Attachment}
    (h : a ∈ blockAttachments n d.blocks) : d.Declares a.entityName a.variableName := by
  obtain ⟨b, hb, he, hv⟩ := exists_block_of_mem_blockAttachments h
  obtain ⟨e, hmem, v, hmem', -, rfl⟩ := mem_blocks_iff.mp hb
  exact ⟨e, hmem, he.symm, v, hmem', hv.symm⟩

/-- A dictionary accepts its own feed, whatever lists its variables have been given since, and
reads its own lists there. -/
theorem WellFormed.attach_feedText {built : Layout} {d : Dictionary} (hd : d.WellFormed built)
    (hnames : ∀ e ∈ d.entities, '\n' ∉ e.name.toList ∧ ∀ v ∈ e.vars, '\n' ∉ v.name.toList)
    {layout : Layout} (hlayout : layout.Readable)
    (f : String → String → List Category → List Category) :
    (d.mapCategories f).attach layout (d.feedText layout) =
      .ok (d.mapCategories fun e v old =>
        layout.categoryMode.merge (f e v old) (categoriesFor (blockAttachments 1 d.blocks) e v),
        ⟨d.categoryCount, 0⟩) := by
  have hblocks := hd.readable_of_mem_blocks hnames
  have hlines : inBlockLines layout (d.feedText layout) = blockAttachments 1 d.blocks :=
    inBlockLines_blocksText hlayout hblocks
  have hreport : feedReport layout (d.feedText layout) = ⟨d.categoryCount, 0⟩ := by
    rw [feedText, feedReport_blocksText hlayout hblocks, length_blockAttachments,
      length_categories_blocks]
  have hdeclares : ∀ a ∈ inBlockLines layout (d.feedText layout),
      d.Declares a.entityName a.variableName := by
    intro a ha
    exact declares_of_mem_blockAttachments (hlines ▸ ha)
  have hself := (attach_eq_ok_iff hd.namesDistinct).mpr ⟨hdeclares, rfl, rfl⟩
  rw [attach_mapCategories hd.namesDistinct hself, hreport]
  simp only [categoriesGiven, hlines]

end Dictionary

/-- The categories of a dictionary, written as a feed, are read back. A dictionary of the same
names without categories gets all of them, in either mode, and nothing is skipped; and the
dictionary itself is left as it is when lists are replaced. -/
theorem attach_own_feed {built : Layout} {d : Dictionary} (hd : d.Reachable built)
    (hnames : ∀ e ∈ d.entities, '\n' ∉ e.name.toList ∧ ∀ v ∈ e.vars, '\n' ∉ v.name.toList)
    {layout : Layout} (hlayout : layout.Readable) :
    (∀ mode, d.emptied.attach { layout with categoryMode := mode } (d.feedText layout) =
      .ok (d, ⟨d.categoryCount, 0⟩)) ∧
    d.attach { layout with categoryMode := .replace } (d.feedText layout) =
      .ok (d, ⟨d.categoryCount, 0⟩) := by
  have hwell := hd.wellFormed
  have hread (mode : CategoryMode) : Layout.Readable { layout with categoryMode := mode } :=
    ⟨hlayout.distinct, hlayout.name, hlayout.entity⟩
  have hown : ∀ e ∈ d.entities, ∀ v ∈ e.vars,
      categoriesFor (blockAttachments 1 d.blocks) e.name v.name = v.categories :=
    fun e he v hv => hwell.namesDistinct.categoriesFor_blocks 1 he hv
  refine ⟨?_, ?_⟩
  · intro mode
    have hfilled : (d.mapCategories fun e v _ =>
        mode.merge [] (categoriesFor (blockAttachments 1 d.blocks) e v)) = d := by
      apply Dictionary.mapCategories_eq_self
      intro e he v hv
      rw [CategoryMode.nil_merge, hown e he v hv]
    have hattach := hwell.attach_feedText hnames (hread mode) fun _ _ _ => []
    rw [hfilled] at hattach
    exact hattach
  · have hfilled : (d.mapCategories fun e v old =>
        CategoryMode.replace.merge old (categoriesFor (blockAttachments 1 d.blocks) e v)) = d := by
      apply Dictionary.mapCategories_eq_self
      intro e he v hv
      rw [hown e he v hv, CategoryMode.merge, ite_id]
    have hattach := hwell.attach_feedText hnames (hread .replace) fun _ _ old => old
    rw [hfilled, d.mapCategories_id] at hattach
    exact hattach

def englishLabels : Layout := { nameLabel := "Variable name", entityLabel := "Entity" }

theorem readable_englishLabels : englishLabels.Readable where
  distinct := by decide
  name := ⟨by decide, by decide, by decide, by decide⟩
  entity := ⟨by decide, by decide, by decide, by decide⟩

theorem sexCensus_own_feed :
    sexCensus.feedText englishLabels =
        "Variable name : P02\nEntity : PERSONA\n1. Varón: sí\n2. Mujer\n" ∧
      sexCensus.emptied = provinceCensus ∧
      provinceCensus.attach { englishLabels with categoryMode := .append }
        (sexCensus.feedText englishLabels) = .ok (sexCensus, ⟨2, 0⟩) ∧
      sexCensus.attach englishLabels (sexCensus.feedText englishLabels) =
        .ok (sexCensus, ⟨2, 0⟩) := by
  have hnames : ∀ e ∈ sexCensus.entities,
      '\n' ∉ e.name.toList ∧ ∀ v ∈ e.vars, '\n' ∉ v.name.toList := by
    decide
  have hempty : sexCensus.emptied = provinceCensus := by decide
  obtain ⟨hemptied, hself⟩ := attach_own_feed reachable_sexCensus hnames readable_englishLabels
  have hfill := hemptied .append
  rw [hempty] at hfill
  exact ⟨by decide, hempty, hfill, hself⟩

end Census
