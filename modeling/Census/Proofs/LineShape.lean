import Mathlib
import Census.Dictionary.Feed

/-!
The text under a feed: what trimming leaves, how lines are told apart, and which lines are
fields and which are categories.
-/

namespace Census

namespace Text

/-- No blank stands at either end. -/
structure IsTrimmed (s : String) : Prop where
  head : ∀ c ∈ s.toList.head?, isBlank c = false
  last : ∀ c ∈ s.toList.getLast?, isBlank c = false

theorem trimChars_eq_rdropWhile (cs : List Char) :
    trimChars cs = (cs.dropWhile isBlank).rdropWhile isBlank := rfl

theorem mem_of_mem_trimChars {c : Char} {cs : List Char} (h : c ∈ trimChars cs) : c ∈ cs := by
  have hfront : c ∈ cs.dropWhile isBlank := (List.rdropWhile_prefix isBlank _).subset h
  exact (List.dropWhile_suffix isBlank).subset hfront

theorem isTrimmed_ofList_trimChars (cs : List Char) : IsTrimmed (String.ofList (trimChars cs)) where
  head := by
    intro c hc
    rw [String.toList_ofList] at hc
    obtain ⟨cut, hcut⟩ := List.rdropWhile_prefix isBlank (cs.dropWhile isBlank)
    have hfront : (cs.dropWhile isBlank).head? = some c := by
      rw [← hcut, ← trimChars_eq_rdropWhile, List.head?_append, Option.mem_def.mp hc]
      rfl
    have hnot := List.head?_dropWhile_not isBlank cs
    rwa [hfront] at hnot
  last := by
    intro c hc
    rw [String.toList_ofList, trimChars_eq_rdropWhile] at hc
    have hne : (cs.dropWhile isBlank).rdropWhile isBlank ≠ [] := by
      intro hnil
      simp [hnil] at hc
    rw [List.getLast?_eq_some_getLast hne] at hc
    have hnot := List.rdropWhile_last_not isBlank _ hne
    rw [Option.mem_some_iff.mp hc] at hnot
    exact Bool.eq_false_iff.mpr hnot

theorem isTrimmed_trim (s : String) : IsTrimmed (trim s) :=
  isTrimmed_ofList_trimChars _

theorem trimChars_of_isTrimmed {s : String} (h : IsTrimmed s) : trimChars s.toList = s.toList := by
  have hfront : s.toList.dropWhile isBlank = s.toList := by
    cases hs : s.toList with
    | nil => rfl
    | cons c cs =>
      have hc : isBlank c = false := h.head c (by simp [hs])
      simp [hc]
  rw [trimChars_eq_rdropWhile, hfront, List.rdropWhile_eq_self_iff]
  intro hne
  have hc := h.last _ (List.getLast?_eq_some_getLast hne)
  exact Bool.eq_false_iff.mp hc

theorem isTrimmed_iff_trim_eq {s : String} : IsTrimmed s ↔ trim s = s := by
  constructor
  · intro h
    rw [trim, trimChars_of_isTrimmed h, String.ofList_toList]
  · intro h
    exact h ▸ isTrimmed_trim s

instance (s : String) : Decidable (IsTrimmed s) :=
  decidable_of_iff _ isTrimmed_iff_trim_eq.symm

theorem trimChars_blank_append {bs : List Char} (h : ∀ b ∈ bs, isBlank b = true) (cs : List Char) :
    trimChars (bs ++ cs) = trimChars cs := by
  rw [trimChars, List.dropWhile_append_of_pos h, ← trimChars]

theorem trimChars_append_blank {bs : List Char} (h : ∀ b ∈ bs, isBlank b = true) (cs : List Char) :
    trimChars (cs ++ bs) = trimChars cs := by
  have hall : bs.dropWhile isBlank = [] := List.dropWhile_eq_nil_iff.mpr h
  have hreverse : ∀ b ∈ bs.reverse, isBlank b = true :=
    fun b hb => h b (List.mem_reverse.mp hb)
  rw [trimChars, trimChars, List.dropWhile_append]
  split_ifs with hnil
  · rw [hall, List.isEmpty_iff.mp hnil]
  · rw [List.reverse_append, List.dropWhile_append_of_pos hreverse]

theorem not_mem_of_blank {bs : List Char} (h : ∀ b ∈ bs, isBlank b = true) {c : Char}
    (hc : isBlank c = false) : c ∉ bs := by
  intro hmem
  rw [h c hmem] at hc
  cases hc

theorem newline_not_mem_of_mem_lines {cs line : List Char} (h : line ∈ lines cs) :
    '\n' ∉ line := by
  fun_induction lines cs generalizing line with
  | case1 => cases h
  | case2 cs ih | case3 cs ih =>
    rcases List.mem_cons.mp h with rfl | h
    · simp
    · exact ih h
  | case4 c cs hc hcr hnil ih =>
    obtain rfl := List.mem_singleton.mp h
    simpa using Ne.symm hc
  | case5 c cs hc hcr first later hlines ih =>
    rcases List.mem_cons.mp h with rfl | h
    · have hfirst : '\n' ∉ first := ih (by simp [hlines])
      simpa [hfirst] using Ne.symm hc
    · exact ih (by simp [hlines, h])

/-- A line ends at its line feed, unless a carriage return before that would go with it. -/
theorem lines_append_newline {line : List Char} (hn : '\n' ∉ line)
    (hr : line.getLast? ≠ some '\r') (rest : List Char) :
    lines (line ++ '\n' :: rest) = line :: lines rest := by
  induction line with
  | nil => rfl
  | cons c line ih =>
    have hc : c ≠ '\n' := fun he => hn (by simp [he])
    have hline : '\n' ∉ line := fun hmem => hn (List.mem_cons_of_mem c hmem)
    have hlast : line.getLast? ≠ some '\r' := by
      intro hlast
      exact hr (by simp [List.getLast?_cons, hlast])
    have hcr : ∀ later, c = '\r' → line ++ '\n' :: rest = '\n' :: later → False := by
      intro later hcr hnext
      cases line with
      | nil => exact hr (by simp [hcr])
      | cons d line =>
        have hd : d = '\n' := (List.cons.inj hnext).1
        exact hline (by simp [hd])
    rw [List.cons_append, lines.eq_4 c _ hc hcr, ih hline hlast]

/-- Lines written one by one, each with its end, are read as they were written. -/
theorem lines_flatMap_newline {ls : List (List Char)}
    (h : ∀ line ∈ ls, '\n' ∉ line ∧ line.getLast? ≠ some '\r') :
    lines (ls.flatMap fun line => line ++ ['\n']) = ls := by
  induction ls with
  | nil => rfl
  | cons line ls ih =>
    obtain ⟨hn, hr⟩ := h line List.mem_cons_self
    have hrest := ih fun later hlater => h later (List.mem_cons_of_mem line hlater)
    rw [List.flatMap_cons, List.append_assoc, List.singleton_append, lines_append_newline hn hr,
      hrest]

/-- What holds no separator is passed over. -/
theorem cut?_append_of_not_mem {sep : Char} {front : List Char} (h : sep ∉ front)
    (cs : List Char) : cut? sep (front ++ cs) = (cut? sep cs).map fun p => (front ++ p.1, p.2) := by
  induction front with
  | nil => simp
  | cons c front ih =>
    have hc : c ≠ sep := fun he => h (by simp [he])
    have hfront : sep ∉ front := fun hmem => h (List.mem_cons_of_mem c hmem)
    rw [List.cons_append, cut?, if_neg hc, ih hfront, Option.map_map]
    rfl

end Text

theorem isTrimmed_trimmed (cs : List Char) : Text.IsTrimmed (trimmed cs) :=
  Text.isTrimmed_ofList_trimChars cs

theorem trimmed_of_isTrimmed {s : String} (h : Text.IsTrimmed s) : trimmed s.toList = s := by
  rw [trimmed, Text.trimChars_of_isTrimmed h, String.ofList_toList]

theorem trimmed_trimmed (cs : List Char) : trimmed (trimmed cs).toList = trimmed cs :=
  trimmed_of_isTrimmed (isTrimmed_trimmed cs)

theorem not_mem_trimmed {c : Char} {cs : List Char} (h : c ∉ cs) : c ∉ (trimmed cs).toList := by
  rw [trimmed, String.toList_ofList]
  exact fun hmem => h (Text.mem_of_mem_trimChars hmem)

theorem trimmed_eq_empty_iff {cs : List Char} :
    trimmed cs = "" ↔ ∀ c ∈ cs, Text.isBlank c = true := by
  constructor
  · intro hempty
    have hchars : Text.trimChars cs = [] := by simpa [trimmed] using hempty
    rw [Text.trimChars_eq_rdropWhile, List.rdropWhile_eq_nil_iff] at hchars
    have hfront : cs.dropWhile Text.isBlank = [] := by
      by_contra hne
      have hhead := List.head_dropWhile_not Text.isBlank hne
      rw [hchars _ (List.head_mem hne)] at hhead
      cases hhead
    exact List.dropWhile_eq_nil_iff.mp hfront
  · intro hblank
    have hchars : Text.trimChars (cs ++ []) = Text.trimChars [] :=
      Text.trimChars_blank_append hblank []
    rw [List.append_nil] at hchars
    rw [trimmed, hchars]
    rfl

namespace FeedLine

/-- A line has no separator, or starts with what stands in front of its first one. -/
theorem first_separator (line : List Char) :
    (':' ∉ line ∧ '.' ∉ line) ∨
      ∃ before after, ':' ∉ before ∧ '.' ∉ before ∧
        (line = before ++ ':' :: after ∨ line = before ++ '.' :: after) := by
  induction line with
  | nil => exact Or.inl ⟨by simp, by simp⟩
  | cons c cs ih =>
    by_cases hcolon : c = ':'
    · exact Or.inr ⟨[], cs, by simp, by simp, Or.inl (by simp [hcolon])⟩
    by_cases hpoint : c = '.'
    · exact Or.inr ⟨[], cs, by simp, by simp, Or.inr (by simp [hpoint])⟩
    rcases ih with ⟨hno, hno'⟩ | ⟨before, after, hno, hno', hline⟩
    · exact Or.inl ⟨by simp [hno, Ne.symm hcolon], by simp [hno', Ne.symm hpoint]⟩
    · refine Or.inr ⟨c :: before, after, ?_, ?_, ?_⟩
      · simp [hno, Ne.symm hcolon]
      · simp [hno', Ne.symm hpoint]
      · simpa using hline

theorem classify_of_no_separator {line : List Char} (hcolon : ':' ∉ line) (hpoint : '.' ∉ line) :
    classify line = .other := by
  rw [classify, Text.cut?_eq_none_iff.mpr hcolon]
  rw [ofPoint, Text.cut?_eq_none_iff.mpr hpoint]

theorem classify_of_colon {before : List Char} (hcolon : ':' ∉ before) (hpoint : '.' ∉ before)
    (after : List Char) :
    classify (before ++ ':' :: after) = .field (trimmed before) (trimmed after) := by
  have hcut : Text.cut? ':' (before ++ ':' :: after) = some (before, after) :=
    Text.cut?_eq_some_iff.mpr ⟨rfl, hcolon⟩
  rw [classify, hcut]
  exact if_neg hpoint

theorem classify_of_point {before : List Char} (hcolon : ':' ∉ before) (hpoint : '.' ∉ before)
    (after : List Char) :
    classify (before ++ '.' :: after) =
      if trimmed before = "" then .malformed else .category (trimmed before) (trimmed after) := by
  have hcut : Text.cut? '.' (before ++ '.' :: after) = some (before, after) :=
    Text.cut?_eq_some_iff.mpr ⟨rfl, hpoint⟩
  have hofPoint : ofPoint (before ++ '.' :: after) =
      if trimmed before = "" then .malformed else .category (trimmed before) (trimmed after) := by
    rw [ofPoint, hcut]
  rw [classify, Text.cut?_append_of_not_mem hcolon]
  -- A colon further on has the point in front of it, so it does not count.
  cases hlater : Text.cut? ':' ('.' :: after) with
  | none => exact hofPoint
  | some p =>
    obtain ⟨label, value⟩ := p
    have hlabel : '.' ∈ label := by
      obtain ⟨hsplit, -⟩ := Text.cut?_eq_some_iff.mp hlater
      cases label with
      | nil => simp at hsplit
      | cons c label => exact List.mem_cons.mpr (Or.inl (List.cons.inj hsplit).1)
    simp [hlabel, hofPoint]

/-- Blanks in front of a line go with the trimming of what stands before its first separator. -/
theorem classify_blank_append {bs : List Char} (h : ∀ b ∈ bs, Text.isBlank b = true)
    (line : List Char) : classify (bs ++ line) = classify line := by
  have hcolonless : ':' ∉ bs := Text.not_mem_of_blank h (by decide)
  have hpointless : '.' ∉ bs := Text.not_mem_of_blank h (by decide)
  have htrimmed (cs : List Char) : trimmed (bs ++ cs) = trimmed cs := by
    rw [trimmed, Text.trimChars_blank_append h, ← trimmed]
  have hfree {c : Char} {cs : List Char} (hbs : c ∉ bs) (hcs : c ∉ cs) : c ∉ bs ++ cs := by
    simp [hbs, hcs]
  rcases first_separator line with ⟨hcolon, hpoint⟩ | ⟨before, after, hcolon, hpoint, rfl | rfl⟩
  · rw [classify_of_no_separator hcolon hpoint,
      classify_of_no_separator (hfree hcolonless hcolon) (hfree hpointless hpoint)]
  · rw [← List.append_assoc, classify_of_colon hcolon hpoint,
      classify_of_colon (hfree hcolonless hcolon) (hfree hpointless hpoint), htrimmed]
  · rw [← List.append_assoc, classify_of_point hcolon hpoint,
      classify_of_point (hfree hcolonless hcolon) (hfree hpointless hpoint), htrimmed]

/-- Blanks at the end of a line go with the trimming of what stands behind its first separator. -/
theorem classify_append_blank {bs : List Char} (h : ∀ b ∈ bs, Text.isBlank b = true)
    (line : List Char) : classify (line ++ bs) = classify line := by
  have hcolonless : ':' ∉ bs := Text.not_mem_of_blank h (by decide)
  have hpointless : '.' ∉ bs := Text.not_mem_of_blank h (by decide)
  have htrimmed (cs : List Char) : trimmed (cs ++ bs) = trimmed cs := by
    rw [trimmed, Text.trimChars_append_blank h, ← trimmed]
  rcases first_separator line with ⟨hcolon, hpoint⟩ | ⟨before, after, hcolon, hpoint, rfl | rfl⟩
  · have hcolon' : ':' ∉ line ++ bs := by simp [hcolon, hcolonless]
    have hpoint' : '.' ∉ line ++ bs := by simp [hpoint, hpointless]
    rw [classify_of_no_separator hcolon hpoint, classify_of_no_separator hcolon' hpoint']
  · rw [List.append_assoc, List.cons_append, classify_of_colon hcolon hpoint,
      classify_of_colon hcolon hpoint, htrimmed]
  · rw [List.append_assoc, List.cons_append, classify_of_point hcolon hpoint,
      classify_of_point hcolon hpoint, htrimmed]

/-- A category line holds its code in front of its first point, and no colon comes before that. -/
theorem exists_cut_of_classify_eq_category {line : List Char} {code label : String}
    (h : classify line = .category code label) :
    ∃ before after, line = before ++ '.' :: after ∧ ':' ∉ before ∧ '.' ∉ before ∧
      trimmed before ≠ "" ∧ code = trimmed before ∧ label = trimmed after := by
  rcases first_separator line with ⟨hcolon, hpoint⟩ | ⟨before, after, hcolon, hpoint, rfl | rfl⟩
  · rw [classify_of_no_separator hcolon hpoint] at h
    cases h
  · rw [classify_of_colon hcolon hpoint] at h
    cases h
  · rw [classify_of_point hcolon hpoint] at h
    split_ifs at h with hblank
    obtain ⟨rfl, rfl⟩ := FeedLine.category.inj h
    exact ⟨before, after, rfl, hcolon, hpoint, hblank, rfl, rfl⟩

end FeedLine

end Census
