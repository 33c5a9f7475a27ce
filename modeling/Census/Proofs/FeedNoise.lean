import Mathlib
import Census.Proofs.FeedJoin
import Census.Proofs.MovedLines

/-!
What a feed does not depend on: lines that say nothing, and blanks around the others.
-/

namespace Census

/-- A line that holds no separator, or a field of no interest. -/
structure IsNoise (layout : Layout) (line : String) : Prop where
  one_line : '\n' ∉ line.toList
  says_nothing : (':' ∉ line.toList ∧ '.' ∉ line.toList) ∨
    ∃ label value, FeedLine.classify line.toList = .field label value ∧
      label ≠ layout.nameLabel ∧ label ≠ layout.entityLabel

/-- A text with blanks around it, none of which ends a line. -/
def IsPadded (core line : List Char) : Prop :=
  ∃ front back, line = front ++ core ++ back ∧
    ∀ b ∈ front ++ back, Text.isBlank b = true ∧ b ≠ '\n'

/-- Two lines that differ at most in the blanks around them. -/
def SameButBlanks (line line' : String) : Prop :=
  ∃ core, '\n' ∉ core ∧ IsPadded core line.toList ∧ IsPadded core line'.toList

/-- What becomes of one line of a text. -/
inductive LineEdit where
  | keep (line line' : String)
  | insert (line : String)
  | delete (line : String)
  deriving DecidableEq, Repr

def LineEdit.Harmless (layout : Layout) : LineEdit → Prop
  | keep line line' => SameButBlanks line line'
  | insert line => IsNoise layout line
  | delete line => IsNoise layout line

def linesBefore : List LineEdit → List String
  | [] => []
  | .keep line _ :: later => line :: linesBefore later
  | .insert _ :: later => linesBefore later
  | .delete line :: later => line :: linesBefore later

def linesAfter : List LineEdit → List String
  | [] => []
  | .keep _ line' :: later => line' :: linesAfter later
  | .insert line :: later => line :: linesAfter later
  | .delete _ :: later => linesAfter later

/-- A line with number `n` is kept and has number `n'` afterwards. -/
def KeptAt (edits : List LineEdit) (n n' : ℕ) : Prop :=
  ∃ earlier line line' later, edits = earlier ++ .keep line line' :: later ∧
    n = (linesBefore earlier).length + 1 ∧ n' = (linesAfter earlier).length + 1

namespace IsPadded

variable {core line : List Char}

theorem refl (core : List Char) : IsPadded core core :=
  ⟨[], [], by simp, by simp⟩

theorem classify (h : IsPadded core line) : FeedLine.classify line = FeedLine.classify core := by
  obtain ⟨front, back, rfl, hblanks⟩ := h
  have hfront : ∀ b ∈ front, Text.isBlank b = true :=
    fun b hb => (hblanks b (List.mem_append_left back hb)).1
  have hback : ∀ b ∈ back, Text.isBlank b = true :=
    fun b hb => (hblanks b (List.mem_append_right front hb)).1
  rw [FeedLine.classify_append_blank hback, FeedLine.classify_blank_append hfront]

theorem one_line (h : IsPadded core line) (hcore : '\n' ∉ core) : '\n' ∉ line := by
  obtain ⟨front, back, rfl, hblanks⟩ := h
  intro hmem
  rw [List.append_assoc, List.mem_append, List.mem_append] at hmem
  rcases hmem with hmem | hmem | hmem
  · exact (hblanks _ (List.mem_append_left back hmem)).2 rfl
  · exact hcore hmem
  · exact (hblanks _ (List.mem_append_right front hmem)).2 rfl

end IsPadded

namespace SameButBlanks

variable {line line' : String}

theorem append_return (h : '\n' ∉ line.toList) : SameButBlanks line (line ++ "\r") := by
  refine ⟨line.toList, h, .refl _, [], ['\r'], by simp, ?_⟩
  intro b hb
  obtain rfl := List.mem_singleton.mp hb
  exact ⟨rfl, by decide⟩

theorem classify (h : SameButBlanks line line') :
    FeedLine.classify line'.toList = FeedLine.classify line.toList := by
  obtain ⟨core, -, hline, hline'⟩ := h
  rw [hline'.classify, hline.classify]

theorem one_line (h : SameButBlanks line line') : '\n' ∉ line.toList ∧ '\n' ∉ line'.toList := by
  obtain ⟨core, hcore, hline, hline'⟩ := h
  exact ⟨hline.one_line hcore, hline'.one_line hcore⟩

end SameButBlanks

theorem one_line_of_sameButBlanks {lines lines' : List String}
    (h : List.Forall₂ SameButBlanks lines lines') :
    (∀ line ∈ lines, '\n' ∉ line.toList) ∧ ∀ line ∈ lines', '\n' ∉ line.toList := by
  induction h with
  | nil => simp
  | cons hline _ ih =>
    exact ⟨List.forall_mem_cons.mpr ⟨hline.one_line.1, ih.1⟩,
      List.forall_mem_cons.mpr ⟨hline.one_line.2, ih.2⟩⟩

theorem map_classify_of_sameButBlanks {lines lines' : List String}
    (h : List.Forall₂ SameButBlanks lines lines') :
    (lines'.map fun line => FeedLine.classify line.toList) =
      lines.map fun line => FeedLine.classify line.toList := by
  induction h with
  | nil => rfl
  | cons hline _ ih => rw [List.map_cons, List.map_cons, hline.classify, ih]

theorem IsNoise.isIdle {layout : Layout} {line : String} (h : IsNoise layout line) :
    (FeedLine.classify line.toList).IsIdle layout := by
  rcases h.says_nothing with ⟨hcolon, hpoint⟩ | ⟨label, value, hfield, hlabel⟩
  · rw [FeedLine.classify_of_no_separator hcolon hpoint]
    trivial
  · rw [hfield]
    exact hlabel

theorem newline_not_mem_of_mem_splitOn {cs line : List Char} (h : line ∈ cs.splitOn '\n') :
    '\n' ∉ line := by
  induction cs generalizing line with
  | nil =>
    rw [List.splitOn_nil, List.mem_singleton] at h
    simp [h]
  | cons c cs ih =>
    rw [List.splitOn_cons_eq_if_modifyHead] at h
    split_ifs at h with hc
    · rcases List.mem_cons.mp h with rfl | h
      · simp
      · exact ih h
    · obtain ⟨first, later, hsplit⟩ := List.exists_cons_of_ne_nil (List.splitOn_ne_nil '\n' cs)
      rw [hsplit, List.modifyHead_cons] at h
      rcases List.mem_cons.mp h with rfl | h
      · have hfirst : '\n' ∉ first := ih (by simp [hsplit])
        have hne : '\n' ≠ c := by
          rintro rfl
          exact hc rfl
        simp [hfirst, hne]
      · exact ih (by simp [hsplit, h])

theorem exists_lines (text : String) :
    ∃ lines : List String,
      (∀ line ∈ lines, '\n' ∉ line.toList) ∧ "\n".intercalate lines = text := by
  refine ⟨(text.toList.splitOn '\n').map String.ofList, ?_, ?_⟩
  · intro line hline
    obtain ⟨cs, hcs, rfl⟩ := List.mem_map.mp hline
    rw [String.toList_ofList]
    exact newline_not_mem_of_mem_splitOn hcs
  · apply String.toList_inj.mp
    rw [String.toList_intercalate, List.map_map]
    simp only [Function.comp_def, String.toList_ofList, List.map_id']
    exact List.intercalate_splitOn '\n'

/-- A line at the end that is empty gives no entry, whether the line splitter counts it or not. -/
theorem entriesFrom_intercalate (layout : Layout) {lines : List String}
    (h : ∀ line ∈ lines, '\n' ∉ line.toList) (header : Header) (n : ℕ) :
    entriesFrom layout header n (feedLines ("\n".intercalate lines)) =
      entriesFrom layout header n (lines.map fun line => FeedLine.classify line.toList) := by
  induction lines generalizing header n with
  | nil => rfl
  | cons line later ih =>
    have hn : '\n' ∉ line.toList := h line List.mem_cons_self
    cases later with
    | nil =>
      rw [String.intercalate_singleton]
      by_cases hempty : line = ""
      · subst hempty
        rfl
      · have hchars : line.toList ≠ [] := by simpa using hempty
        rw [feedLines, Text.lines_of_not_mem hn hchars]
        rfl
    | cons next later =>
      have hlater := ih (fun l hl => h l (List.mem_cons_of_mem line hl))
        (header.next layout (FeedLine.classify line.toList)) (n + 1)
      rw [String.intercalate_cons_cons, feedLines_cons_line hn, entriesFrom, hlater]
      rfl

theorem feedEntries_intercalate (layout : Layout) {lines : List String}
    (h : ∀ line ∈ lines, '\n' ∉ line.toList) :
    feedEntries layout ("\n".intercalate lines) = entriesFrom layout (.awaiting none none) 1
      (lines.map fun line => FeedLine.classify line.toList) :=
  entriesFrom_intercalate layout h _ 1

/-- A carriage return in front of a line feed is a blank at the end of the line. -/
theorem feedLines_crlf {lines : List String} (h : ∀ line ∈ lines, '\n' ∉ line.toList) :
    feedLines ("\r\n".intercalate lines) = feedLines ("\n".intercalate lines) := by
  induction lines with
  | nil => rfl
  | cons line later ih =>
    have hlater := ih fun l hl => h l (List.mem_cons_of_mem line hl)
    cases later with
    | nil => rw [String.intercalate_singleton, String.intercalate_singleton]
    | cons next later =>
      have hsame := SameButBlanks.append_return (h line List.mem_cons_self)
      have hend : line ++ "\r\n" = line ++ "\r" ++ "\n" := by rw [String.append_assoc]; rfl
      rw [String.intercalate_cons_cons, String.intercalate_cons_cons, hend,
        feedLines_cons_line hsame.one_line.2, feedLines_cons_line hsame.one_line.1, hsame.classify,
        hlater]

theorem linesBefore_append (edits edits' : List LineEdit) :
    linesBefore (edits ++ edits') = linesBefore edits ++ linesBefore edits' := by
  induction edits with
  | nil => rfl
  | cons edit later ih => cases edit <;> simp [linesBefore, ih]

theorem linesAfter_append (edits edits' : List LineEdit) :
    linesAfter (edits ++ edits') = linesAfter edits ++ linesAfter edits' := by
  induction edits with
  | nil => rfl
  | cons edit later ih => cases edit <;> simp [linesAfter, ih]

theorem one_line_of_harmless {layout : Layout} {edits : List LineEdit}
    (h : ∀ edit ∈ edits, edit.Harmless layout) :
    (∀ line ∈ linesBefore edits, '\n' ∉ line.toList) ∧
      ∀ line ∈ linesAfter edits, '\n' ∉ line.toList := by
  induction edits with
  | nil => simp [linesBefore, linesAfter]
  | cons edit later ih =>
    obtain ⟨hedit, hlater⟩ := List.forall_mem_cons.mp h
    obtain ⟨hbefore, hafter⟩ := ih hlater
    cases edit with
    | keep line line' =>
      have hlines := SameButBlanks.one_line hedit
      exact ⟨List.forall_mem_cons.mpr ⟨hlines.1, hbefore⟩,
        List.forall_mem_cons.mpr ⟨hlines.2, hafter⟩⟩
    | insert line => exact ⟨hbefore, List.forall_mem_cons.mpr ⟨IsNoise.one_line hedit, hafter⟩⟩
    | delete line => exact ⟨List.forall_mem_cons.mpr ⟨IsNoise.one_line hedit, hbefore⟩, hafter⟩

/-- Behind any other edits, harmless ones leave the lines aligned. -/
theorem aligned_of_harmless {layout : Layout} (done : List LineEdit) {edits : List LineEdit}
    (h : ∀ edit ∈ edits, edit.Harmless layout) :
    Aligned layout (KeptAt (done ++ edits)) ((linesBefore done).length + 1)
      ((linesAfter done).length + 1)
      ((linesBefore edits).map fun line => FeedLine.classify line.toList)
      ((linesAfter edits).map fun line => FeedLine.classify line.toList) := by
  -- The edits made so far move over to `done`, which counts the lines on both sides.
  induction edits generalizing done with
  | nil => exact .nil _ _
  | cons edit later ih =>
    obtain ⟨hedit, hrest⟩ := List.forall_mem_cons.mp h
    have hlater := ih (done ++ [edit]) hrest
    rw [List.append_assoc, List.singleton_append, linesBefore_append, linesAfter_append,
      List.length_append, List.length_append] at hlater
    cases edit with
    | keep line line' =>
      rw [linesBefore, linesAfter, List.map_cons, List.map_cons, SameButBlanks.classify hedit]
      exact .both _ ⟨done, line, line', later, rfl, rfl, rfl⟩ hlater
    | insert line =>
      rw [linesBefore, linesAfter, List.map_cons]
      exact .right (IsNoise.isIdle hedit) hlater
    | delete line =>
      rw [linesBefore, linesAfter, List.map_cons]
      exact .left (IsNoise.isIdle hedit) hlater

/-- Noise in a feed does not matter, whatever the dictionary. Lines that say nothing may come and
go anywhere and blanks may be put around any line: the outcome is the same, up to the number of
the line that an error names, which is that of the same line. Blanks alone leave even that number,
and so does ending the lines with a carriage return. Every text is made of lines in this way. -/
theorem feed_noise_does_not_matter (d : Dictionary) (layout : Layout) :
    (∀ edits : List LineEdit, (∀ edit ∈ edits, edit.Harmless layout) →
      SameOutcome (KeptAt edits) (d.attach layout ("\n".intercalate (linesBefore edits)))
        (d.attach layout ("\n".intercalate (linesAfter edits)))) ∧
    (∀ lines lines' : List String, List.Forall₂ SameButBlanks lines lines' →
      d.attach layout ("\n".intercalate lines') = d.attach layout ("\n".intercalate lines)) ∧
    (∀ lines : List String, (∀ line ∈ lines, '\n' ∉ line.toList) →
      d.attach layout ("\r\n".intercalate lines) = d.attach layout ("\n".intercalate lines)) ∧
    (∀ text : String, ∃ lines : List String, (∀ line ∈ lines, '\n' ∉ line.toList) ∧
      "\n".intercalate lines = text) := by
  refine ⟨?_, ?_, ?_, exists_lines⟩
  · intro edits hedits
    obtain ⟨hbefore, hafter⟩ := one_line_of_harmless hedits
    apply Dictionary.attach_of_moved
    rw [feedEntries_intercalate layout hbefore, feedEntries_intercalate layout hafter]
    exact (aligned_of_harmless [] hedits).entriesFrom _
  · intro lines lines' hlines
    obtain ⟨hbefore, hafter⟩ := one_line_of_sameButBlanks hlines
    apply Dictionary.attach_congr
    rw [feedEntries_intercalate layout hafter, feedEntries_intercalate layout hbefore,
      map_classify_of_sameButBlanks hlines]
  · intro lines hlines
    apply Dictionary.attach_congr
    rw [feedEntries, feedEntries, feedLines_crlf hlines]

/-- A feed for a variable that is not there, freed of a field of no interest, put under a heading
and spaced otherwise. -/
def respacedEdits : List LineEdit :=
  [.insert "Censo", .keep "Nombre : P04" "\t Nombre : P04 ", .delete "Etiqueta : Sexo",
    .insert "Tipo : x. y", .insert "", .keep "Entidad : PERSONA" "Entidad : PERSONA",
    .keep "1. A" " 1. A\r"]

/-- The line that names the missing variable is the fourth at first and the sixth afterwards. -/
theorem personCensus_respaced_feed :
    (∀ edit ∈ respacedEdits, edit.Harmless {}) ∧
      personCensus.attach {} "Nombre : P04\nEtiqueta : Sexo\nEntidad : PERSONA\n1. A" =
        .error (.unknownVariable "PERSONA" "P04" 4) ∧
      personCensus.attach {}
        "Censo\n\t Nombre : P04 \nTipo : x. y\n\nEntidad : PERSONA\n 1. A\r" =
          .error (.unknownVariable "PERSONA" "P04" 6) ∧
      KeptAt respacedEdits 4 6 ∧
      personCensus.attach {} "Nombre : P04\r\nEtiqueta : Sexo\r\nEntidad : PERSONA\r\n1. A" =
        .error (.unknownVariable "PERSONA" "P04" 4) := by
  have hname : SameButBlanks "Nombre : P04" "\t Nombre : P04 " :=
    ⟨"Nombre : P04".toList, by decide, .refl _, ['\t', ' '], [' '], rfl,
      by simp [Text.isBlank, Text.blankRanges]⟩
  have hentity : SameButBlanks "Entidad : PERSONA" "Entidad : PERSONA" :=
    ⟨"Entidad : PERSONA".toList, by decide, .refl _, .refl _⟩
  have hcategory : SameButBlanks "1. A" " 1. A\r" :=
    ⟨"1. A".toList, by decide, .refl _, [' '], ['\r'], rfl,
      by simp [Text.isBlank, Text.blankRanges]⟩
  have hheading : IsNoise {} "Censo" := ⟨by decide, Or.inl ⟨by decide, by decide⟩⟩
  have hempty : IsNoise {} "" := ⟨by decide, Or.inl ⟨by decide, by decide⟩⟩
  have hlabel : IsNoise {} "Etiqueta : Sexo" :=
    ⟨by decide, Or.inr ⟨"Etiqueta", "Sexo", by decide, by decide, by decide⟩⟩
  have htype : IsNoise {} "Tipo : x. y" :=
    ⟨by decide, Or.inr ⟨"Tipo", "x. y", by decide, by decide, by decide⟩⟩
  have hharmless : ∀ edit ∈ respacedEdits, edit.Harmless {} := by
    simp only [respacedEdits, List.forall_mem_cons, List.not_mem_nil, false_implies, implies_true,
      and_true]
    exact ⟨hheading, hname, hlabel, htype, hempty, hentity, hcategory⟩
  have hbefore : personCensus.attach {} ("\n".intercalate (linesBefore respacedEdits)) =
      .error (.unknownVariable "PERSONA" "P04" 4) := by
    decide
  obtain ⟨hedits, -, hreturns, -⟩ := feed_noise_does_not_matter personCensus {}
  have hafter := hedits respacedEdits hharmless
  have hcrlf := hreturns (linesBefore respacedEdits) (one_line_of_harmless hharmless).1
  have hmoved : personCensus.attach {} ("\n".intercalate (linesAfter respacedEdits)) =
      .error (.unknownVariable "PERSONA" "P04" 6) := by
    decide
  rw [hbefore] at hcrlf
  rw [hbefore, hmoved] at hafter
  cases hafter with
  | error herr =>
    cases herr with
    | unknownVariable entityName variableName hkept =>
      exact ⟨hharmless, hbefore, hmoved, hkept, hcrlf⟩

end Census
