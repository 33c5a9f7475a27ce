import Mathlib
import Census.Proofs.DocumentReading

/-!
The text of a document as a whole. It can be read back, so no two documents share it; its empty
lines are those that end a section in front of the table, and the last line has no end.
-/

namespace Census.Query

theorem keyword_append_ne_empty {keyword : String} (h : keyword ≠ "") (value : String) :
    keyword ++ value ≠ "" := by
  intro hempty
  exact h (String.append_eq_empty_iff.mp hempty).1

theorem count_clause {keyword : String} (h : keyword ≠ "") (value : Option String) :
    (clause (fun v => keyword ++ v) value).count "" = 0 := by
  rw [List.count_eq_zero]
  intro hmem
  obtain ⟨v, -, hempty⟩ := List.mem_map.mp hmem
  exact keyword_append_ne_empty h v hempty

theorem count_flag {line : String} (h : line ≠ "") (given : Bool) :
    (if given then [line] else []).count "" = 0 := by
  cases given with
  | false => rfl
  | true => exact List.count_singleton.trans (if_neg (by simpa using h))

theorem Subject.line_ne_empty (s : Subject) : s.line ≠ "" := by
  cases s with
  | single name => exact keyword_append_ne_empty (by decide) name
  | grouped areaLevel identifiers =>
    have hline : (Subject.grouped areaLevel identifiers).line =
        indent ++ "OF " ++ (areaLevel ++ ", " ++ listed identifiers) := by
      simp only [Subject.line, String.append_assoc]
    rw [hline]
    exact keyword_append_ne_empty (by decide) _

theorem AreaFilter.count_lines (f : AreaFilter) : f.lines.count "" = 0 := by
  have hselection : indent ++ " " ++ f.areaType ++ " " ++ listed f.codes ≠ "" := by
    rw [String.append_assoc, String.append_assoc]
    exact keyword_append_ne_empty (by decide) _
  rw [AreaFilter.lines, List.count_eq_zero]
  simp only [List.mem_cons, List.not_mem_nil, or_false, not_or]
  exact ⟨by decide, hselection.symm⟩

/-- Of the lines of a definition the last one is empty, and no other. -/
theorem Define.count_lines (d : Define) : d.lines.count "" = 1 := by
  have hname : "DEFINE " ++ d.name ≠ "" := keyword_append_ne_empty (by decide) _
  have hexpression : indent ++ "AS " ++ d.expression ≠ "" := keyword_append_ne_empty (by decide) _
  have htype : indent ++ "TYPE INTEGER" ≠ "" := by decide
  rw [Define.lines, List.count_cons_of_ne hname, List.count_cons_of_ne hexpression,
    List.count_cons_of_ne htype]
  rfl

theorem Table.count_lines (t : Table) : t.lines.count "" = 0 := by
  have hkind : indent ++ "AS " ++ t.kind.keyword ≠ "" := keyword_append_ne_empty (by decide) _
  have hby : (t.breakdowns.map fun v => deepIndent ++ "BY " ++ v).count "" = 0 := by
    rw [List.count_eq_zero]
    intro hmem
    obtain ⟨v, -, hempty⟩ := List.mem_map.mp hmem
    exact keyword_append_ne_empty (by decide) v hempty
  rw [t.lines_eq, List.count_cons_of_ne (by decide), List.count_append, count_clause (by decide),
    List.count_cons_of_ne hkind, List.count_cons_of_ne t.subject.line_ne_empty, List.count_append,
    hby, List.count_append, count_flag (by decide), List.count_append, count_clause (by decide),
    List.count_append, count_flag (by decide), List.count_nil]

theorem Document.count_lines (d : Document) : d.lines.count "" = 1 + d.defines.length := by
  have hfilter : (d.areaFilter.elim [] AreaFilter.lines).count "" = 0 := by
    cases d.areaFilter with
    | none => rfl
    | some f => exact f.count_lines
  have hdefines : (d.defines.flatMap Define.lines).count "" = d.defines.length := by
    induction d.defines with
    | nil => rfl
    | cons define defines ih =>
      rw [List.flatMap_cons, List.count_append, define.count_lines, ih, List.length_cons,
        Nat.add_comm]
  calc d.lines.count ""
      = d.runLines.count "" + (d.defines.flatMap Define.lines).count "" +
          d.table.lines.count "" := by
        rw [Document.lines, List.count_append, List.count_append]
    _ = 1 + d.defines.length := by
        rw [hdefines, d.table.count_lines, Nat.add_zero, Document.runLines, List.count_append,
          List.count_append, List.count_append, hfilter, count_clause (by decide)]
        rfl

/-- Joined lines end as the last one does, if that is not empty. -/
theorem getLast?_intercalate_concat (earlier : List String) {last : String} (h : last ≠ "") :
    ("\n".intercalate (earlier ++ [last])).toList.getLast? = last.toList.getLast? := by
  have hchars : last.toList ≠ [] := by simpa using h
  induction earlier with
  | nil => simp
  | cons line earlier ih =>
    obtain ⟨next, later, hlater⟩ := List.exists_cons_of_ne_nil
      (List.append_ne_nil_of_right_ne_nil earlier (List.cons_ne_nil last []))
    rw [List.cons_append, hlater, String.intercalate_cons_cons, ← hlater, String.toList_append,
      List.getLast?_append, ih, List.getLast?_eq_some_getLast hchars]
    rfl

theorem getLast?_render {d : Document} (h : ∀ text ∈ d.texts, OneLine text) :
    d.render.toList.getLast? ≠ some '\n' := by
  have hne : d.table.lines ≠ [] := by
    rw [d.table.lines_eq]
    exact List.cons_ne_nil _ _
  obtain ⟨earlier, last, htable⟩ := (List.eq_nil_or_concat' d.table.lines).resolve_left hne
  have hlines : d.lines = d.runLines ++ d.defines.flatMap Define.lines ++ earlier ++ [last] := by
    rw [Document.lines, htable]
    simp only [List.append_assoc]
  have hlast : last ∈ d.lines := by simp [hlines]
  have hlastTable : last ∈ d.table.lines := by simp [htable]
  have hsolid : last ≠ "" := by
    rintro rfl
    exact List.count_eq_zero.mp d.table.count_lines hlastTable
  rw [Document.render, hlines, getLast?_intercalate_concat _ hsolid]
  intro hnewline
  exact Document.oneLine_lines h last hlast (List.mem_of_getLast? hnewline)

/-- A document whose texts keep to their lines, and whose lists can be told apart, is read back from
its text, however many definitions and breakdowns it has and whichever texts are empty. So no other
such document has that text. The text has an empty line behind the run definition and one behind
each definition, and none at its end. -/
theorem rendered_document_is_read_back {d : Document} (h : d.Plain) :
    Document.ofText? d.render = some d ∧
    (∀ other : Document, other.Plain → other.render = d.render → other = d) ∧
    d.render.toList.getLast? ≠ some '\n' ∧
    (d.render.toList.splitOn '\n').count [] = 1 + d.defines.length := by
  refine ⟨Document.ofText?_render h, ?_, getLast?_render h.one_line, ?_⟩
  · intro other hother hrender
    apply Option.some.inj
    calc some other
        = Document.ofText? other.render := (Document.ofText?_render hother).symm
      _ = Document.ofText? d.render := by rw [hrender]
      _ = some d := Document.ofText?_render h
  · have hinjective : Function.Injective String.ofList :=
      Function.LeftInverse.injective fun cs => String.toList_ofList
    rw [← d.count_lines, ← h.splitOn_render]
    exact (List.count_map_of_injective _ _ hinjective []).symm

/-- Two definitions, one of which is worded like another clause, and a table with every clause it
can have; the universe, the title and a breakdown are there but empty. -/
def crowdedDocument : Document where
  areaFilter := some ⟨"PROV", ["02", "03"], by decide⟩
  universeFilter := some ""
  defines := [Define.count "FRAC.COUNTER" "HOGAR", ⟨"TABLE TABLE1", "MEDIAN"⟩]
  table := {
    title := some ""
    kind := .areaList
    subject := .grouped "FRAC" ["FRAC.COUNTER", ""]
    breakdowns := ["COMPLETENAME", ""]
    completeNames := true
    areaBreak := some "TOTAL"
    total := true }

theorem crowdedDocument_is_read_back :
    crowdedDocument.Plain ∧ Document.ofText? crowdedDocument.render = some crowdedDocument ∧
      (crowdedDocument.render.toList.splitOn '\n').count [] = 3 := by
  have hplain : crowdedDocument.Plain :=
    { one_line := by decide
      area_filter := by
        intro f hf
        obtain rfl : _ = f := Option.some.inj hf
        exact ⟨by decide, by decide⟩
      subject := .grouped (by decide) (by decide) }
  obtain ⟨hread, -, -, hempty⟩ := rendered_document_is_read_back hplain
  exact ⟨hplain, hread, hempty⟩

end Census.Query
