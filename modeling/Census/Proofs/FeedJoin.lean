import Mathlib
import Census.Proofs.FeedEffect
import Census.Proofs.LineShape

/-!
A feed put behind another one. Its lines, its header and its entries go on where those of the
first one stop, provided that the first one ends its last line.
-/

namespace Census

namespace Text

/-- A line as the line splitter gives it back. -/
def withoutReturn (line : List Char) : List Char :=
  if line.getLast? = some '\r' then line.dropLast else line

theorem lines_append_crlf {line : List Char} (hn : '\n' ∉ line) (rest : List Char) :
    lines (line ++ '\r' :: '\n' :: rest) = line :: lines rest := by
  induction line with
  | nil => rfl
  | cons c line ih =>
    have hc : c ≠ '\n' := fun he => hn (by simp [he])
    have hline : '\n' ∉ line := fun hmem => hn (List.mem_cons_of_mem c hmem)
    have hcr : ∀ later, c = '\r' → line ++ '\r' :: '\n' :: rest = '\n' :: later → False := by
      intro later _ hnext
      cases line with
      | nil => simp at hnext
      | cons d line => exact hline (by simp [(List.cons.inj hnext).1])
    rw [List.cons_append, lines.eq_4 c _ hc hcr, ih hline]

theorem lines_cons_line {line : List Char} (hn : '\n' ∉ line) (rest : List Char) :
    lines (line ++ '\n' :: rest) = withoutReturn line :: lines rest := by
  by_cases hr : line.getLast? = some '\r'
  · obtain ⟨front, rfl⟩ := List.getLast?_eq_some_iff.mp hr
    have hfront : '\n' ∉ front := fun hmem => hn (by simp [hmem])
    have hwithout : withoutReturn (front ++ ['\r']) = front := by simp [withoutReturn]
    rw [hwithout, List.append_assoc, List.singleton_append, lines_append_crlf hfront]
  · rw [lines_append_newline hn hr, withoutReturn, if_neg hr]

theorem lines_of_not_mem {line : List Char} (hn : '\n' ∉ line) (hne : line ≠ []) :
    lines line = [line] := by
  induction line with
  | nil => exact absurd rfl hne
  | cons c line ih =>
    have hc : c ≠ '\n' := fun he => hn (by simp [he])
    have hline : '\n' ∉ line := fun hmem => hn (List.mem_cons_of_mem c hmem)
    have hcr : ∀ later, c = '\r' → line = '\n' :: later → False := by
      intro later _ hnext
      exact hline (by simp [hnext])
    rw [lines.eq_4 c _ hc hcr]
    cases line with
    | nil => rfl
    | cons d line => rw [ih hline (List.cons_ne_nil d line)]

/-- A text that ends its last line is made of lines with their ends. -/
theorem exists_ended_lines {front : List Char} (h : ∀ c ∈ front.getLast?, c = '\n') :
    ∃ ls : List (List Char), (∀ line ∈ ls, '\n' ∉ line) ∧
      front = ls.flatMap fun line => line ++ ['\n'] := by
  induction front with
  | nil => exact ⟨[], by simp, rfl⟩
  | cons c front ih =>
    have hfront : ∀ d ∈ front.getLast?, d = '\n' := by
      intro d hd
      apply h
      rw [List.getLast?_cons, Option.mem_def.mp hd]
      rfl
    obtain ⟨ls, hls, rfl⟩ := ih hfront
    by_cases hc : c = '\n'
    · refine ⟨[] :: ls, ?_, by simp [hc]⟩
      intro line hline
      rcases List.mem_cons.mp hline with rfl | hline
      · simp
      · exact hls line hline
    · cases ls with
      | nil => exact absurd (h c (by simp)) hc
      | cons first ls =>
        refine ⟨(c :: first) :: ls, ?_, by simp⟩
        intro line hline
        rcases List.mem_cons.mp hline with rfl | hline
        · simpa [Ne.symm hc] using hls first List.mem_cons_self
        · exact hls line (List.mem_cons_of_mem first hline)

theorem lines_ended_append {ls : List (List Char)} (h : ∀ line ∈ ls, '\n' ∉ line)
    (rest : List Char) :
    lines ((ls.flatMap fun line => line ++ ['\n']) ++ rest) =
      ls.map withoutReturn ++ lines rest := by
  induction ls with
  | nil => rfl
  | cons line ls ih =>
    have hline : '\n' ∉ line := h line List.mem_cons_self
    have hls := ih fun later hlater => h later (List.mem_cons_of_mem line hlater)
    rw [List.flatMap_cons, List.append_assoc, List.append_assoc, List.singleton_append,
      lines_cons_line hline, hls, List.map_cons, List.cons_append]

theorem lines_append {front : List Char} (h : ∀ c ∈ front.getLast?, c = '\n')
    (rest : List Char) : lines (front ++ rest) = lines front ++ lines rest := by
  obtain ⟨ls, hls, rfl⟩ := exists_ended_lines h
  have hfront := lines_ended_append hls []
  rw [List.append_nil, lines, List.append_nil] at hfront
  rw [lines_ended_append hls, hfront]

end Text

namespace FeedLine

/-- A carriage return at the end of a line is a blank like others. -/
theorem classify_append_return (line : List Char) :
    classify (line ++ ['\r']) = classify line := by
  apply classify_append_blank
  intro b hb
  obtain rfl := List.mem_singleton.mp hb
  rfl

theorem classify_withoutReturn (line : List Char) :
    classify (Text.withoutReturn line) = classify line := by
  rw [Text.withoutReturn]
  split_ifs with hr
  · obtain ⟨front, rfl⟩ := List.getLast?_eq_some_iff.mp hr
    rw [List.dropLast_concat, classify_append_return]
  · rfl

end FeedLine

/-- The text is empty or its last line has its end. -/
def EndsLines (text : String) : Prop :=
  ∀ c ∈ text.toList.getLast?, c = '\n'

/-- Lines one after the other; the last one may stay without its end. -/
def linesText (lines : List String) (ended : Bool) : String :=
  "\n".intercalate lines ++ if ended then "\n" else ""

theorem feedLines_append {before : String} (h : EndsLines before) (after : String) :
    feedLines (before ++ after) = feedLines before ++ feedLines after := by
  rw [feedLines, String.toList_append, Text.lines_append h, List.map_append]
  rfl

theorem feedLines_cons_line {line : String} (hn : '\n' ∉ line.toList) (later : String) :
    feedLines (line ++ "\n" ++ later) = FeedLine.classify line.toList :: feedLines later := by
  have hchars : (line ++ "\n" ++ later).toList = line.toList ++ '\n' :: later.toList := by simp
  rw [feedLines, hchars, Text.lines_cons_line hn, List.map_cons,
    FeedLine.classify_withoutReturn]
  rfl

theorem feedLines_linesText {lines : List String} (hne : lines ≠ [])
    (h : ∀ line ∈ lines, '\n' ∉ line.toList ∧ line ≠ "") (ended : Bool) :
    feedLines (linesText lines ended) = lines.map fun line => FeedLine.classify line.toList := by
  induction lines with
  | nil => exact absurd rfl hne
  | cons line later ih =>
    obtain ⟨hn, hline⟩ := h line List.mem_cons_self
    cases later with
    | nil =>
      cases ended with
      | true =>
        have hempty : feedLines "" = [] := rfl
        have hlast := feedLines_cons_line hn ""
        rw [hempty] at hlast
        simpa [linesText] using hlast
      | false =>
        have hchars : line.toList ≠ [] := by simpa using hline
        have hlast := Text.lines_of_not_mem hn hchars
        simp [linesText, feedLines, hlast]
    | cons next later =>
      have hlater := ih (List.cons_ne_nil next later) fun l hl => h l (List.mem_cons_of_mem line hl)
      have htext : linesText (line :: next :: later) ended =
          line ++ "\n" ++ linesText (next :: later) ended := by
        simp [linesText, String.intercalate_cons_cons, String.append_assoc]
      rw [htext, feedLines_cons_line hn, hlater]
      rfl

/-- The entries of the text behind are those it has under the header and the line number at which
the text in front stops. -/
theorem feedEntries_append {before : String} (h : EndsLines before) (layout : Layout)
    (after : String) :
    feedEntries layout (before ++ after) = feedEntries layout before ++
      entriesFrom layout (Header.after layout (feedLines before))
        ((feedLines before).length + 1) (feedLines after) := by
  rw [feedEntries, feedLines_append h, entriesFrom_append, Nat.add_comm 1]
  rfl

/-- What entries behind those of a text add to its report. -/
theorem feedReport_of_feedEntries {layout : Layout} {before text : String} {entries : List Entry}
    (h : feedEntries layout text = feedEntries layout before ++ entries) :
    feedReport layout text =
      ⟨(feedReport layout before).attached + (entries.filterMap Entry.attachment?).length,
        (feedReport layout before).skipped + entries.count .skip⟩ := by
  have hreport (text : String) : feedReport layout text =
      ⟨((feedEntries layout text).filterMap Entry.attachment?).length,
        (feedEntries layout text).count .skip⟩ := by
    rw [feedReport, attachments_feedEntries, count_skip_feedEntries]
  rw [hreport text, hreport before, h, List.filterMap_append, List.length_append,
    List.count_append]

theorem inBlockLines_of_feedEntries {layout : Layout} {before text : String} {entries : List Entry}
    (h : feedEntries layout text = feedEntries layout before ++ entries) :
    inBlockLines layout text =
      inBlockLines layout before ++ entries.filterMap Entry.attachment? := by
  rw [← attachments_feedEntries, h, List.filterMap_append, attachments_feedEntries]

end Census
