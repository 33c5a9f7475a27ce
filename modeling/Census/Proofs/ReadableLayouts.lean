import Mathlib
import Census.Proofs.FeedText
import Census.Proofs.HeaderPairs

/-!
Which layouts can attach anything. No line carries a label that is not trimmed or holds a separator,
so under such a label one half of every header stays unknown, as it does when both fields have one
label. Nothing is attached then, and nothing fails.
-/

namespace Census

variable {layout : Layout}

theorem FeedLine.isLabel_of_classify_eq_field {line : List Char} {label value : String}
    (hline : '\n' ∉ line) (h : classify line = .field label value) : IsLabel label := by
  rcases first_separator line with ⟨hcolon, hpoint⟩ | ⟨before, after, hcolon, hpoint, rfl | rfl⟩
  · rw [classify_of_no_separator hcolon hpoint] at h
    cases h
  · rw [classify_of_colon hcolon hpoint] at h
    obtain ⟨rfl, -⟩ := FeedLine.field.inj h
    exact {
      trimmed := isTrimmed_trimmed before
      colon := not_mem_trimmed hcolon
      point := not_mem_trimmed hpoint
      line := not_mem_trimmed fun hmem => hline (List.mem_append_left _ hmem) }
  · rw [classify_of_point hcolon hpoint] at h
    split_ifs at h

theorem isLabel_of_mem_feedLines {text label value : String}
    (h : .field label value ∈ feedLines text) : IsLabel label := by
  obtain ⟨line, hline, hclass⟩ := List.mem_map.mp h
  exact FeedLine.isLabel_of_classify_eq_field (Text.newline_not_mem_of_mem_lines hline) hclass

namespace Layout

theorem headerField?_eq_name_iff {line : FeedLine} {value : String} :
    layout.headerField? line = some (.name value) ↔ line = .field layout.nameLabel value := by
  cases line with
  | field label v =>
    simp only [headerField?, FeedLine.field.injEq]
    split_ifs with hname hentity
    · simp [hname]
    · simp [hname]
    · simp [hname]
  | _ => simp [headerField?]

/-- The name is looked for first, so a common label is never that of an entity. -/
theorem headerField?_eq_entity_iff {line : FeedLine} {value : String} :
    layout.headerField? line = some (.entity value) ↔
      layout.nameLabel ≠ layout.entityLabel ∧ line = .field layout.entityLabel value := by
  cases line with
  | field label v =>
    simp only [headerField?, FeedLine.field.injEq]
    split_ifs with hname hentity
    · simp only [hname, reduceCtorEq, Option.some.injEq, false_iff, not_and]
      exact fun hne heq => absurd heq hne
    · simp [hentity, Ne.symm (hentity ▸ hname)]
    · simp [hentity]
  | _ => simp [headerField?]

variable {text : String} {n : ℕ} {value : String}

theorem isLabel_nameLabel (h : .name value ∈ headerFields layout ((feedLines text).take n)) :
    IsLabel layout.nameLabel := by
  obtain ⟨line, hline, hf⟩ := List.mem_filterMap.mp h
  rw [headerField?_eq_name_iff] at hf
  exact isLabel_of_mem_feedLines (hf ▸ List.mem_of_mem_take hline)

theorem isLabel_entityLabel (h : .entity value ∈ headerFields layout ((feedLines text).take n)) :
    layout.nameLabel ≠ layout.entityLabel ∧ IsLabel layout.entityLabel := by
  obtain ⟨line, hline, hf⟩ := List.mem_filterMap.mp h
  obtain ⟨hne, hfield⟩ := headerField?_eq_entity_iff.mp hf
  exact ⟨hne, isLabel_of_mem_feedLines (hfield ▸ List.mem_of_mem_take hline)⟩

end Layout

theorem EndsWithPair.mem {fields : List HeaderField} {entityName variableName : String}
    (h : EndsWithPair fields entityName variableName) :
    .name variableName ∈ fields ∧ .entity entityName ∈ fields := by
  obtain ⟨earlier, rfl | rfl⟩ := h
  · simp
  · simp

/-- A header is only completed by two fields that lines can carry and that can be told apart. -/
theorem Layout.readable_of_block {text : String} {n : ℕ} {entityName variableName : String}
    (h : Header.after layout ((feedLines text).take n) = .block entityName variableName) :
    layout.Readable := by
  obtain ⟨hname, hentity⟩ := (Header.ends_with_pair_of_after h).mem
  obtain ⟨hdistinct, hentityLabel⟩ := Layout.isLabel_entityLabel hentity
  exact ⟨hdistinct, Layout.isLabel_nameLabel hname, hentityLabel⟩

theorem inBlockLines_of_not_readable (h : ¬ layout.Readable) (text : String) :
    inBlockLines layout text = [] := by
  rw [List.eq_nil_iff_forall_not_mem]
  intro a ha
  obtain ⟨i, -, -, hblock⟩ := mem_inBlockLines_iff.mp ha
  exact h (Layout.readable_of_block hblock)

/-- Skipped lines are counted; whatever names the dictionary has, nothing looks them up. -/
theorem Attaching.run_of_no_attachment (mode : CategoryMode) (s : Attaching)
    {entries : List Entry} (h : entries.filterMap Entry.attachment? = []) :
    s.run mode entries =
      .ok { s with report := { s.report with
        skipped := s.report.skipped + entries.count .skip } } := by
  induction entries generalizing s with
  | nil => rfl
  | cons entry later ih =>
    cases entry with
    | attach a => simp [Entry.attachment?] at h
    | skip =>
      rw [run_cons, step, Except.bind, ih _ h, List.count_cons_self, Nat.add_assoc,
        Nat.add_comm 1]

theorem Dictionary.attach_of_no_block_line {text : String} (h : inBlockLines layout text = [])
    (d : Dictionary) : d.attach layout text = .ok (d, feedReport layout text) := by
  have hentries : (feedEntries layout text).filterMap Entry.attachment? = [] := by
    rw [attachments_feedEntries, h]
  rw [attach, Attaching.run_of_no_attachment _ _ hentries, count_skip_feedEntries, feedReport, h]
  simp [Except.map]

theorem Dictionary.attach_of_not_readable (h : ¬ layout.Readable) (d : Dictionary)
    (text : String) : d.attach layout text = .ok (d, ⟨0, (feedReport layout text).skipped⟩) := by
  have hlines := inBlockLines_of_not_readable h text
  have hattached : (feedReport layout text).attached = 0 := by
    rw [feedReport, hlines, List.length_nil]
  rw [attach_of_no_block_line hlines, ← hattached]

/-- A block for a variable that the dictionary has is attached, whatever the layout, as long as it
is readable. -/
theorem Dictionary.attach_block {d : Dictionary} (hd : d.NamesDistinct) (hlayout : layout.Readable)
    {b : Block} (hb : b.Readable) (hdeclares : d.Declares b.entityName b.variableName) :
    d.attach layout (blocksText layout [b]) =
      .ok (d.filled layout.categoryMode (b.attachments 1), ⟨b.categories.length, 0⟩) := by
  have hblocks : ∀ c ∈ [b], c.Readable := by
    intro c hc
    exact List.mem_singleton.mp hc ▸ hb
  have hlines : inBlockLines layout (blocksText layout [b]) = b.attachments 1 := by
    rw [inBlockLines_blocksText hlayout hblocks, blockAttachments, blockAttachments,
      List.append_nil]
  have hreport : feedReport layout (blocksText layout [b]) = ⟨b.categories.length, 0⟩ := by
    rw [feedReport_blocksText hlayout hblocks, length_blockAttachments]
    simp
  refine (attach_eq_ok_iff hd).mpr ⟨?_, ?_, hreport.symm⟩
  · intro a ha
    obtain ⟨he, hv⟩ := Block.names_of_mem_attachments (hlines ▸ ha)
    exact he.symm ▸ hv.symm ▸ hdeclares
  · rw [hlines]

theorem Run.not_contradicts_of_vars_eq_nil {run : Run} (h : run.vars = []) (layout : Layout) :
    ¬ run.Contradicts layout := by
  intro hcontra
  obtain ⟨v, hv, -⟩ := hcontra.2
  exact List.not_mem_nil (h ▸ hv)

/-- An entity without variables is in nobody's way at the end of a table. -/
theorem Dictionary.exists_of_noOffence {rows : List Row} (h : NoOffence rows) {last : Run}
    (hlast : (runs rows).getLast? = some last) (hvars : last.vars = []) (layout : Layout) :
    ∃ d, ofRows layout rows = .ok d ∧
      ∀ run ∈ runs rows, ∀ v ∈ run.vars, d.Declares run.name v.name := by
  have hend : ∀ run ∈ (runs rows).getLast?, ¬ run.Contradicts layout := by
    intro run hrun
    obtain rfl : last = run := Option.some.inj (hlast.symm.trans hrun)
    exact Run.not_contradicts_of_vars_eq_nil hvars layout
  refine ⟨_, ofRows_of_noOffence h hend, ?_⟩
  intro run hrun v hv
  exact ⟨run.entity layout, List.mem_map_of_mem hrun, rfl, v, hv, rfl⟩

/-- A person's sex, and households of which nothing is asked. -/
def householdTable : List Row :=
  [⟨"1.0", "PERSONA", "", ""⟩, ⟨"1.1", "PERSONA", "P02", "I"⟩, ⟨"2.0", "HOGAR", "", ""⟩]

theorem noOffence_householdTable : NoOffence householdTable := by
  have hbuilt : Dictionary.ofRows {} householdTable =
      .ok ⟨[⟨"1", "PERSONA", .data, [⟨"P02", "I", []⟩]⟩, ⟨"2", "HOGAR", .data, []⟩]⟩ := by
    decide
  exact (Dictionary.ofRows_eq_ok_iff.mp hbuilt).1

theorem exists_dictionary_of_householdTable (layout : Layout) :
    ∃ d, Dictionary.ofRows layout householdTable = .ok d ∧ d.Declares "PERSONA" "P02" := by
  obtain ⟨last, hlast, hvars⟩ : ∃ last, (runs householdTable).getLast? = some last ∧
      last.vars = [] :=
    ⟨.single ⟨"2.0", "HOGAR", "", ""⟩, rfl, rfl⟩
  obtain ⟨run, hrun, hname, v, hv, hvname⟩ : ∃ run ∈ runs householdTable, run.name = "PERSONA" ∧
      ∃ v ∈ run.vars, v.name = "P02" := by
    decide
  obtain ⟨d, hd, hdeclares⟩ :=
    Dictionary.exists_of_noOffence noOffence_householdTable hlast hvars layout
  exact ⟨d, hd, hname ▸ hvname ▸ hdeclares run hrun v hv⟩

/-- A layout can attach something just when its labels differ and lines can carry both: then there
are a table and a feed of which categories come. Under any other layout no feed fails and none
attaches anything, whatever the dictionary; all that is left is a count of skipped lines. -/
theorem only_readable_layouts_attach (layout : Layout) :
    ((∃ rows d text filled report, Dictionary.ofRows layout rows = .ok d ∧
        d.attach layout text = .ok (filled, report) ∧ 0 < report.attached) ↔ layout.Readable) ∧
    (¬ layout.Readable → ∀ (d : Dictionary) (text : String),
      ∃ skipped, d.attach layout text = .ok (d, ⟨0, skipped⟩)) := by
  refine ⟨⟨?_, ?_⟩, fun h d text => ⟨_, d.attach_of_not_readable h text⟩⟩
  · intro h
    obtain ⟨rows, d, text, filled, report, -, hattach, hpos⟩ := h
    by_contra hlayout
    rw [d.attach_of_not_readable hlayout text] at hattach
    obtain ⟨-, rfl⟩ := Prod.mk.inj (Except.ok.inj hattach)
    exact Nat.lt_irrefl 0 hpos
  · intro hlayout
    obtain ⟨d, hd, hdeclares⟩ := exists_dictionary_of_householdTable layout
    have hcategory : Category.WellFormed ⟨"1", "Hombre"⟩ := by
      constructor <;> decide
    have hblock : Block.Readable ⟨"PERSONA", "P02", [⟨"1", "Hombre"⟩]⟩ :=
      { entity_trimmed := by decide
        entity_line := by decide
        variable_trimmed := by decide
        variable_line := by decide
        categories := List.forall_mem_singleton.mpr hcategory }
    have hattach := Dictionary.attach_block (Dictionary.namesDistinct_of_ofRows hd) hlayout hblock
      hdeclares
    exact ⟨householdTable, d, _, _, _, hd, hattach, Nat.one_pos⟩

end Census
