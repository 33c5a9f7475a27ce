import Mathlib
import Census.Proofs.QueryNormalForm

/-!
A counter is an area list with a definition. The text of a document is put together from its
sections, and a counter has those of the area list of its variable; the definition stands in
between them, and the total behind.
-/

namespace Census.Query

/-- The run definition and the empty line that ends it. -/
def runSection (areaFilter : Option AreaFilter) (universeFilter : Option String) : String :=
  "RUNDEF Job\n" ++
    areaFilter.elim "" (fun f =>
      "    SELECTION INLINE,\n" ++ "     " ++ f.areaType ++ " " ++ listed f.codes ++ "\n") ++
    universeFilter.elim "" (fun u => "    UNIVERSE " ++ u ++ "\n") ++ "\n"

/-- A definition and the empty line that ends it. -/
def Define.text (d : Define) : String :=
  "DEFINE " ++ d.name ++ "\n" ++ "    AS " ++ d.expression ++ "\n" ++ "    TYPE INTEGER\n" ++ "\n"

theorem Table.lines_ne_nil (t : Table) : t.lines ≠ [] := by
  rw [t.lines_eq]
  exact List.cons_ne_nil _ _

theorem Document.intercalate_runLines (d : Document) :
    "\n".intercalate d.runLines ++ "\n" = runSection d.areaFilter d.universeFilter := by
  rw [← String.toList_inj]
  cases hf : d.areaFilter <;> cases hu : d.universeFilter <;>
    simp [runLines, runSection, hf, hu, clause, AreaFilter.lines, indent]

theorem Define.intercalate_lines (d : Define) : "\n".intercalate d.lines ++ "\n" = d.text := by
  rw [← String.toList_inj]
  simp [lines, text, indent]

theorem intercalate_defines (defines : List Define) {later : List String} (hlater : later ≠ []) :
    "\n".intercalate (defines.flatMap Define.lines ++ later) =
      String.join (defines.map Define.text) ++ "\n".intercalate later := by
  -- On the definitions; there is always a line behind the first ones, which the join needs.
  induction defines with
  | nil => simp
  | cons define defines ih =>
    have hne : defines.flatMap Define.lines ++ later ≠ [] :=
      List.append_ne_nil_of_right_ne_nil _ hlater
    have hdefine : define.lines ≠ [] := List.cons_ne_nil _ _
    rw [List.flatMap_cons, List.append_assoc, String.intercalate_append_of_ne_nil hdefine hne,
      define.intercalate_lines, ih, List.map_cons, String.join_cons, String.append_assoc]

theorem Document.render_eq_sections (d : Document) :
    d.render = runSection d.areaFilter d.universeFilter ++
      (String.join (d.defines.map Define.text) ++ "\n".intercalate d.table.lines) := by
  have hrun : d.runLines ≠ [] := List.append_ne_nil_of_right_ne_nil _ (List.cons_ne_nil _ _)
  have hlater : d.defines.flatMap Define.lines ++ d.table.lines ≠ [] :=
    List.append_ne_nil_of_right_ne_nil _ d.table.lines_ne_nil
  rw [render, lines, List.append_assoc, String.intercalate_append_of_ne_nil hrun hlater,
    d.intercalate_runLines, intercalate_defines _ d.table.lines_ne_nil]

/-- The total is a line of its own behind all others. -/
theorem Table.intercalate_withTotal {t : Table} (h : t.total = false) (total : Bool) :
    "\n".intercalate { t with total }.lines =
      "\n".intercalate t.lines ++ if total then "\n    TOTAL" else "" := by
  cases total with
  | false =>
    have hsame : { t with total := false } = t := by rw [← h]
    rw [hsame]
    simp
  | true =>
    have hlines : { t with total := true }.lines = t.lines ++ ["    TOTAL"] := by
      simp [lines, h, indent]
    rw [hlines, String.intercalate_append_of_ne_nil t.lines_ne_nil (List.cons_ne_nil _ _),
      String.intercalate_singleton, String.append_assoc]
    rfl

/-- The area list of the variable that a counter defines. -/
def CounterRequest.listing (c : CounterRequest) : AreaListRequest where
  areaLevel := c.areaLevel
  identifiers := [c.areaLevel ++ ".COUNTER"]
  areaFilter := c.areaFilter
  universeFilter := c.universeFilter
  title := c.title
  includeAreaName := c.includeAreaName

/-- A counter has the sections of its area list, and its definition between them; a total comes
last. -/
theorem counter_is_area_list_with_definition {c : CounterRequest}
    (hlevel : Text.isBlankText c.areaLevel = false)
    (hentity : Text.isBlankText c.countedEntity = false) :
    ∃ table : String,
      (Request.areaList c.listing).text =
        .ok (runSection c.areaFilter (present c.universeFilter) ++ table) ∧
      (Request.counter c).text =
        .ok (runSection c.areaFilter (present c.universeFilter) ++
          ("DEFINE " ++ c.areaLevel ++ ".COUNTER\n" ++ "    AS COUNT " ++ c.countedEntity ++ "\n" ++
            "    TYPE INTEGER\n" ++ "\n") ++
          table ++ if c.includeTotal then "\n    TOTAL" else "") := by
  have hlisting : (Request.areaList c.listing).document = .ok c.listing.written :=
    AreaListRequest.document_eq_ok_iff.mpr ⟨hlevel, List.cons_ne_nil _ _, rfl⟩
  have hcounter : (Request.counter c).document = .ok c.written :=
    CounterRequest.document_eq_ok_iff.mpr ⟨hlevel, hentity, rfl⟩
  have htable : c.written.table = { c.listing.written.table with total := c.includeTotal } := rfl
  have hdefine : String.join (c.written.defines.map Define.text) =
      "DEFINE " ++ c.areaLevel ++ ".COUNTER\n" ++ "    AS COUNT " ++ c.countedEntity ++ "\n" ++
        "    TYPE INTEGER\n" ++ "\n" := by
    rw [← String.toList_inj]
    simp [CounterRequest.written, Define.text, Define.count, counterVariable]
  refine ⟨"\n".intercalate c.listing.written.table.lines, ?_, ?_⟩
  · rw [Request.text, hlisting, Except.map, Document.render_eq_sections]
    simp [AreaListRequest.written, CounterRequest.listing]
  · rw [Request.text, hcounter, Except.map, Document.render_eq_sections, hdefine, htable,
      Table.intercalate_withTotal rfl]
    simp [CounterRequest.written, String.append_assoc]

/-- Fractions counted in each department, with every option there is. -/
def fractionCounter : CounterRequest where
  areaLevel := "DPTO"
  countedEntity := "FRAC"
  areaFilter := some ⟨"PROV", ["02"], by decide⟩
  universeFilter := some "1 = 1"
  title := some "T"
  includeAreaName := true
  includeTotal := true

theorem fractionCounter_is_area_list_with_definition :
    Text.isBlankText "DPTO" = false ∧ Text.isBlankText "FRAC" = false ∧
      ∃ table : String,
        (Request.areaList fractionCounter.listing).text =
          .ok ("RUNDEF Job\n    SELECTION INLINE,\n     PROV 02\n    UNIVERSE 1 = 1\n\n" ++ table) ∧
        (Request.counter fractionCounter).text =
          .ok ("RUNDEF Job\n    SELECTION INLINE,\n     PROV 02\n    UNIVERSE 1 = 1\n\n" ++
            "DEFINE DPTO.COUNTER\n    AS COUNT FRAC\n    TYPE INTEGER\n\n" ++
            table ++ "\n    TOTAL") := by
  have hlevel : Text.isBlankText "DPTO" = false := by decide
  have hentity : Text.isBlankText "FRAC" = false := by decide
  have hrun : runSection fractionCounter.areaFilter (present fractionCounter.universeFilter) =
      "RUNDEF Job\n    SELECTION INLINE,\n     PROV 02\n    UNIVERSE 1 = 1\n\n" := by decide
  obtain ⟨table, hlisting, hcounter⟩ := counter_is_area_list_with_definition
    (c := fractionCounter) hlevel hentity
  rw [hrun] at hlisting hcounter
  exact ⟨hlevel, hentity, table, hlisting, hcounter⟩

end Census.Query
