import Mathlib
import Census.Query.Document
import Census.Text.Lines

/-!
Reading a query document back from its text. Each clause has its own keyword, so the lines of a
text are taken one clause after another; in the end the document is what the text says.
-/

namespace Census.Query

/-! ### Keywords -/

/-- What follows a keyword on a line. -/
def behind? (keyword line : String) : Option String :=
  (keyword.toList.isPrefixOf? line.toList).map String.ofList

theorem behind?_eq_some_iff {keyword line value : String} :
    behind? keyword line = some value ↔ line = keyword ++ value := by
  rw [behind?, Option.map_eq_some_iff]
  constructor
  · intro h
    obtain ⟨cs, hcs, rfl⟩ := h
    apply String.toList_inj.mp
    rw [String.toList_append, String.toList_ofList]
    exact (List.isPrefixOf?_eq_some_iff_append_eq.mp hcs).symm
  · intro h
    refine ⟨value.toList, ?_, String.ofList_toList⟩
    rw [h, String.toList_append]
    exact List.isPrefixOf?_eq_some_iff_append_eq.mpr rfl

theorem behind?_append (keyword value : String) : behind? keyword (keyword ++ value) = some value :=
  behind?_eq_some_iff.mpr rfl

/-- Neither of two keywords begins with the other. -/
def Apart (keyword other : String) : Prop :=
  ¬ keyword.toList <+: other.toList ∧ ¬ other.toList <+: keyword.toList

instance (keyword other : String) : Decidable (Apart keyword other) :=
  inferInstanceAs (Decidable (_ ∧ _))

theorem behind?_eq_none {keyword other : String} (h : Apart keyword other) (value : String) :
    behind? keyword (other ++ value) = none := by
  rw [Option.eq_none_iff_forall_ne_some]
  intro rest hrest
  have hline : other.toList ++ value.toList = keyword.toList ++ rest.toList := by
    rw [← String.toList_append, ← String.toList_append, behind?_eq_some_iff.mp hrest]
  have hother : other.toList <+: keyword.toList ++ rest.toList := ⟨value.toList, hline⟩
  have hkeyword : keyword.toList <+: keyword.toList ++ rest.toList := List.prefix_append _ _
  rcases List.prefix_or_prefix_of_prefix hother hkeyword with hle | hle
  · exact h.2 hle
  · exact h.1 hle

/-- The next line is not one of this keyword. -/
def NotNext (keyword : String) (lines : List String) : Prop :=
  ∀ line ∈ lines.head?, behind? keyword line = none

section Clauses

variable {keyword other : String} {later : List String}

theorem NotNext.ne {line fixed : String} (h : NotNext fixed (line :: later)) : line ≠ fixed := by
  rintro rfl
  have hself : behind? line line = some "" := behind?_eq_some_iff.mpr String.append_empty.symm
  rw [h line rfl] at hself
  cases hself

theorem notNext_nil : NotNext keyword [] := by
  intro line hline
  simp at hline

theorem notNext_cons {line : String} (h : behind? keyword line = none) :
    NotNext keyword (line :: later) := by
  intro first hfirst
  obtain rfl : line = first := by simpa using hfirst
  exact h

theorem notNext_append {lines : List String} (h : NotNext keyword lines)
    (hlater : NotNext keyword later) : NotNext keyword (lines ++ later) := by
  cases lines with
  | nil => exact hlater
  | cons line lines => exact h

theorem notNext_clause (h : Apart keyword other) (value : Option String) :
    NotNext keyword (clause (fun v => other ++ v) value) := by
  cases value with
  | none => exact notNext_nil
  | some value => exact notNext_cons (behind?_eq_none h value)

theorem notNext_flag {line : String} (h : behind? keyword line = none) (given : Bool) :
    NotNext keyword (if given then [line] else []) := by
  cases given with
  | false => exact notNext_nil
  | true => exact notNext_cons h

/-! ### Taking clauses off the front -/

/-- An optional clause, and the lines after it. -/
def takeClause (keyword : String) : List String → Option String × List String
  | [] => (none, [])
  | line :: later =>
    match behind? keyword line with
    | some value => (some value, later)
    | none => (none, line :: later)

/-- A clause that may come any number of times. -/
def takeClauses (keyword : String) : List String → List String × List String
  | [] => ([], [])
  | line :: later =>
    match behind? keyword line with
    | some value => (value :: (takeClauses keyword later).1, (takeClauses keyword later).2)
    | none => ([], line :: later)

/-- Whether a fixed line stands in front. -/
def takeFlag (fixed : String) : List String → Bool × List String
  | [] => (false, [])
  | line :: later => if line = fixed then (true, later) else (false, line :: later)

/-- The lines behind one that must be there. -/
def dropLine? (fixed : String) : List String → Option (List String)
  | [] => none
  | line :: later => if line = fixed then some later else none

theorem takeClause_clause (h : NotNext keyword later) (value : Option String) :
    takeClause keyword (clause (fun v => keyword ++ v) value ++ later) = (value, later) := by
  cases value with
  | some value =>
    rw [clause, Option.toList_some, List.map_cons, List.map_nil, List.singleton_append, takeClause,
      behind?_append]
  | none =>
    rw [clause, Option.toList_none, List.map_nil, List.nil_append]
    cases later with
    | nil => rfl
    | cons line later => rw [takeClause, h line rfl]

theorem takeClauses_map (h : NotNext keyword later) (values : List String) :
    takeClauses keyword (values.map (fun v => keyword ++ v) ++ later) = (values, later) := by
  induction values with
  | nil =>
    rw [List.map_nil, List.nil_append]
    cases later with
    | nil => rfl
    | cons line later => rw [takeClauses, h line rfl]
  | cons value values ih => rw [List.map_cons, List.cons_append, takeClauses, behind?_append, ih]

theorem takeFlag_flag {fixed : String} (h : NotNext fixed later) (given : Bool) :
    takeFlag fixed ((if given then [fixed] else []) ++ later) = (given, later) := by
  cases given with
  | true => rw [if_pos rfl, List.singleton_append, takeFlag, if_pos rfl]
  | false =>
    rw [if_neg Bool.false_ne_true, List.nil_append]
    cases later with
    | nil => rfl
    | cons line later =>
      rw [takeFlag, if_neg h.ne]

theorem dropLine?_cons (fixed : String) : dropLine? fixed (fixed :: later) = some later :=
  if_pos rfl

end Clauses

/-! ### Lists -/

/-- The items of a list as it stands in a query. -/
def unlisted (text : String) : List String :=
  match text.toList.splitOn ',' with
  | [] => []
  | first :: later => String.ofList first :: later.map fun item => String.ofList (item.drop 1)

theorem listed_cons_cons (first second : String) (later : List String) :
    listed (first :: second :: later) = first ++ ", " ++ listed (second :: later) := by
  rw [listed, String.intercalate_cons_cons, listed]

/-- The blank behind each comma is counted to the item behind it. -/
theorem toList_listed (first : String) (later : List String) :
    (listed (first :: later)).toList =
      [','].intercalate (first.toList :: later.map fun item => ' ' :: item.toList) := by
  induction later generalizing first with
  | nil => simp [listed]
  | cons second later ih =>
    have hlater : (listed (second :: later)).toList =
        [','].intercalate (second.toList :: later.map fun item => ' ' :: item.toList) := ih second
    have hblank : [','].intercalate
          ((' ' :: second.toList) :: later.map fun item => ' ' :: item.toList) =
        ' ' :: [','].intercalate (second.toList :: later.map fun item => ' ' :: item.toList) := by
      cases later <;> simp [List.intercalate]
    rw [listed_cons_cons, List.map_cons, List.intercalate_cons_cons, hblank, String.toList_append,
      String.toList_append, hlater]
    simp

theorem unlisted_listed {items : List String} (hne : items ≠ [])
    (h : ∀ item ∈ items, ',' ∉ item.toList) : unlisted (listed items) = items := by
  cases items with
  | nil => exact absurd rfl hne
  | cons first later =>
    have hpieces : ∀ piece ∈ first.toList :: later.map (fun item => ' ' :: item.toList),
        ',' ∉ piece := by
      intro piece hpiece
      rcases List.mem_cons.mp hpiece with rfl | hpiece
      · exact h first List.mem_cons_self
      · obtain ⟨item, hitem, rfl⟩ := List.mem_map.mp hpiece
        simpa using h item (List.mem_cons_of_mem first hitem)
    rw [unlisted, toList_listed, List.splitOn_intercalate ',' hpieces (List.cons_ne_nil _ _)]
    simp [Function.comp_def]

/-! ### Sections -/

/-- The area filter that the line under the selection gives. -/
def selected? (line : String) : Option AreaFilter := do
  let selection ← behind? (indent ++ " ") line
  let (areaType, codes) ← Text.cut? ' ' selection.toList
  (AreaFilter.make (String.ofList areaType) (.many (unlisted (String.ofList codes)))).toOption

def takeFilter : List String → Option AreaFilter × List String
  | head :: line :: later =>
    if head = indent ++ "SELECTION INLINE," then
      match selected? line with
      | some f => (some f, later)
      | none => (none, head :: line :: later)
    else (none, head :: line :: later)
  | lines => (none, lines)

def takeDefines : List String → List Define × List String
  | first :: second :: third :: fourth :: later =>
    match behind? "DEFINE " first, behind? (indent ++ "AS ") second with
    | some name, some expression =>
      (⟨name, expression⟩ :: (takeDefines later).1, (takeDefines later).2)
    | _, _ => ([], first :: second :: third :: fourth :: later)
  | lines => ([], lines)

/-- What a table of this kind is made of. -/
def subject? (kind : TableKind) (line : String) : Option Subject := do
  let subject ← behind? (indent ++ "OF ") line
  match kind with
  | .median => return .single subject
  | .areaList =>
    match unlisted subject with
    | areaLevel :: identifiers => return .grouped areaLevel identifiers
    | [] => none

def kind? (line : String) : Option TableKind :=
  [TableKind.areaList, .median].find? fun k => indent ++ "AS " ++ k.keyword == line

def Table.ofLines? (lines : List String) : Option Table := do
  let lines ← dropLine? "TABLE TABLE1" lines
  let (title, lines) := takeClause (indent ++ "TITLE \"") lines
  match lines with
  | kindLine :: subjectLine :: lines =>
    let kind ← kind? kindLine
    let subject ← subject? kind subjectLine
    let (breakdowns, lines) := takeClauses (deepIndent ++ "BY ") lines
    let (completeNames, lines) := takeFlag (deepIndent ++ "COMPLETENAME") lines
    let (areaBreak, lines) := takeClause (indent ++ "AREABREAK ") lines
    let (total, lines) := takeFlag (indent ++ "TOTAL") lines
    if lines = [] then
      return {
        title := title.map fun t => String.ofList t.toList.dropLast
        kind, subject, breakdowns, completeNames, areaBreak, total }
    else none
  | _ => none

def Document.ofLines? (lines : List String) : Option Document := do
  let lines ← dropLine? "RUNDEF Job" lines
  let (areaFilter, lines) := takeFilter lines
  let (universeFilter, lines) := takeClause (indent ++ "UNIVERSE ") lines
  let lines ← dropLine? "" lines
  let (defines, lines) := takeDefines lines
  let table ← Table.ofLines? lines
  return { areaFilter, universeFilter, defines, table }

/-- The document that a text writes. -/
def Document.ofText? (text : String) : Option Document :=
  ofLines? ((text.toList.splitOn '\n').map String.ofList)

/-! ### Documents that can be read back -/

/-- A text that stays on its line. -/
def OneLine (text : String) : Prop := '\n' ∉ text.toList

instance (text : String) : Decidable (OneLine text) :=
  inferInstanceAs (Decidable (¬ _))

structure AreaFilter.Plain (f : AreaFilter) : Prop where
  area_type : ' ' ∉ f.areaType.toList
  codes : ∀ code ∈ f.codes, ',' ∉ code.toList

/-- The subject is of the form that belongs to the kind, and a list of it can be told apart. -/
inductive Subject.Plain : TableKind → Subject → Prop
  | single (name : String) : Plain .median (.single name)
  | grouped {areaLevel : String} {identifiers : List String} (hne : identifiers ≠ [])
    (hcommas : ∀ item ∈ areaLevel :: identifiers, ',' ∉ item.toList) :
    Plain .areaList (.grouped areaLevel identifiers)

def AreaFilter.texts (f : AreaFilter) : List String :=
  f.areaType :: f.codes

def Define.texts (d : Define) : List String :=
  [d.name, d.expression]

def Subject.texts : Subject → List String
  | grouped areaLevel identifiers => areaLevel :: identifiers
  | single name => [name]

/-- The texts that a document is filled in with. -/
def Document.texts (d : Document) : List String :=
  d.areaFilter.elim [] AreaFilter.texts ++ d.universeFilter.toList ++
    d.defines.flatMap Define.texts ++ d.table.title.toList ++ d.table.subject.texts ++
    d.table.breakdowns ++ d.table.areaBreak.toList

structure Document.Plain (d : Document) : Prop where
  one_line : ∀ text ∈ d.texts, OneLine text
  area_filter : ∀ f ∈ d.areaFilter, f.Plain
  subject : d.table.subject.Plain d.table.kind

theorem selected?_line {f : AreaFilter} (hf : f.Plain) :
    selected? (indent ++ " " ++ f.areaType ++ " " ++ listed f.codes) = some f := by
  have hline : indent ++ " " ++ f.areaType ++ " " ++ listed f.codes =
      indent ++ " " ++ (f.areaType ++ " " ++ listed f.codes) := by
    simp only [String.append_assoc]
  have hcut : Text.cut? ' ' (f.areaType ++ " " ++ listed f.codes).toList =
      some (f.areaType.toList, (listed f.codes).toList) := by
    apply Text.cut?_eq_some_iff.mpr
    exact ⟨by simp, hf.area_type⟩
  rw [hline, selected?, behind?_append]
  simp only [Option.bind_eq_bind, Option.bind_some, hcut, String.ofList_toList,
    unlisted_listed f.codes_ne_nil hf.codes, AreaFilter.make_codes]
  rfl

theorem takeFilter_lines {areaFilter : Option AreaFilter} (hf : ∀ f ∈ areaFilter, f.Plain)
    {later : List String} (hlater : NotNext (indent ++ "SELECTION INLINE,") later) :
    takeFilter (areaFilter.elim [] AreaFilter.lines ++ later) = (areaFilter, later) := by
  cases areaFilter with
  | some f =>
    simp only [Option.elim_some, AreaFilter.lines, List.cons_append, List.nil_append, takeFilter,
      if_true, selected?_line (hf f rfl)]
  | none =>
    rw [Option.elim_none, List.nil_append]
    cases later with
    | nil => rfl
    | cons head later =>
      cases later with
      | nil => rfl
      | cons line later => rw [takeFilter, if_neg hlater.ne]

theorem takeDefines_of_notNext {lines : List String} (h : NotNext "DEFINE " lines) :
    takeDefines lines = ([], lines) := by
  match lines with
  | [] | [_] | [_, _] | [_, _, _] => rfl
  | first :: second :: third :: fourth :: later => rw [takeDefines, h first rfl]

theorem takeDefines_lines {later : List String} (hlater : NotNext "DEFINE " later)
    (defines : List Define) :
    takeDefines (defines.flatMap Define.lines ++ later) = (defines, later) := by
  induction defines with
  | nil =>
    rw [List.flatMap_nil, List.nil_append]
    exact takeDefines_of_notNext hlater
  | cons d defines ih =>
    have hlines : (d :: defines).flatMap Define.lines ++ later =
        ("DEFINE " ++ d.name) :: (indent ++ "AS " ++ d.expression) :: (indent ++ "TYPE INTEGER") ::
          "" :: (defines.flatMap Define.lines ++ later) := by
      simp [Define.lines]
    rw [hlines, takeDefines, behind?_append, behind?_append, ih]

theorem subject?_line {kind : TableKind} {subject : Subject} (h : subject.Plain kind) :
    subject? kind subject.line = some subject := by
  cases h with
  | single name =>
    rw [subject?, Subject.line, behind?_append]
    rfl
  | @grouped areaLevel identifiers hne hcommas =>
    have hlisted : indent ++ "OF " ++ areaLevel ++ ", " ++ listed identifiers =
        indent ++ "OF " ++ listed (areaLevel :: identifiers) := by
      obtain ⟨first, later, rfl⟩ := List.exists_cons_of_ne_nil hne
      simp only [listed, String.intercalate_cons_cons, String.append_assoc]
    rw [subject?, Subject.line, hlisted, behind?_append]
    simp [unlisted_listed (List.cons_ne_nil _ _) hcommas]

theorem kind?_line (kind : TableKind) : kind? (indent ++ "AS " ++ kind.keyword) = some kind := by
  cases kind <;> decide

/-- The lines of a table, one clause in front of the others. -/
theorem Table.lines_eq (t : Table) :
    t.lines = "TABLE TABLE1" ::
      (clause (fun v => indent ++ "TITLE \"" ++ v) (t.title.map fun title => title ++ "\"") ++
        (indent ++ "AS " ++ t.kind.keyword) :: t.subject.line ::
          (t.breakdowns.map (fun v => deepIndent ++ "BY " ++ v) ++
            ((if t.completeNames then [deepIndent ++ "COMPLETENAME"] else []) ++
              (clause (fun v => indent ++ "AREABREAK " ++ v) t.areaBreak ++
                ((if t.total then [indent ++ "TOTAL"] else []) ++ []))))) := by
  have htitle : clause (fun title => indent ++ "TITLE \"" ++ title ++ "\"") t.title =
      clause (fun v => indent ++ "TITLE \"" ++ v) (t.title.map fun title => title ++ "\"") := by
    cases t.title <;> simp [clause, String.append_assoc]
  simp only [Table.lines, htitle, List.append_assoc, List.cons_append, List.nil_append,
    List.append_nil]

theorem Table.ofLines?_lines {t : Table} (h : t.subject.Plain t.kind) :
    ofLines? t.lines = some t := by
  have htotal (keyword : String) (hk : behind? keyword (indent ++ "TOTAL") = none) :
      NotNext keyword ((if t.total then [indent ++ "TOTAL"] else []) ++ []) :=
    notNext_append (notNext_flag hk t.total) notNext_nil
  have hbreak (keyword : String) (hk : Apart keyword (indent ++ "AREABREAK "))
      (hk' : behind? keyword (indent ++ "TOTAL") = none) :
      NotNext keyword (clause (fun v => indent ++ "AREABREAK " ++ v) t.areaBreak ++
        ((if t.total then [indent ++ "TOTAL"] else []) ++ [])) :=
    notNext_append (notNext_clause hk t.areaBreak) (htotal keyword hk')
  have htitleEnds : NotNext (indent ++ "TITLE \"") ((indent ++ "AS " ++ t.kind.keyword) ::
      t.subject.line :: (t.breakdowns.map (fun v => deepIndent ++ "BY " ++ v) ++
        ((if t.completeNames then [deepIndent ++ "COMPLETENAME"] else []) ++
          (clause (fun v => indent ++ "AREABREAK " ++ v) t.areaBreak ++
            ((if t.total then [indent ++ "TOTAL"] else []) ++ []))))) :=
    notNext_cons (behind?_eq_none (by decide) t.kind.keyword)
  have hbyEnds : NotNext (deepIndent ++ "BY ")
      ((if t.completeNames then [deepIndent ++ "COMPLETENAME"] else []) ++
        (clause (fun v => indent ++ "AREABREAK " ++ v) t.areaBreak ++
          ((if t.total then [indent ++ "TOTAL"] else []) ++ []))) :=
    notNext_append (notNext_flag (by decide) t.completeNames) (hbreak _ (by decide) (by decide))
  have hnames := takeFlag_flag
    (hbreak (deepIndent ++ "COMPLETENAME") (by decide) (by decide)) t.completeNames
  have hareaBreak := takeClause_clause (htotal (indent ++ "AREABREAK ") (by decide)) t.areaBreak
  have hlast := takeFlag_flag (notNext_nil : NotNext (indent ++ "TOTAL") []) t.total
  have htitle : (t.title.map fun title => title ++ "\"").map
      (fun t => String.ofList t.toList.dropLast) = t.title := by
    cases t.title <;> simp
  rw [ofLines?, t.lines_eq, dropLine?_cons]
  simp only [Option.bind_eq_bind, Option.bind_some, takeClause_clause htitleEnds,
    kind?_line, subject?_line h, takeClauses_map hbyEnds, hnames, hareaBreak, hlast, htitle]
  rfl

/-! ### Text and lines -/

/-- Lines without a line feed of their own are split apart where they were joined. -/
theorem splitOn_newline_intercalate {lines : List String} (hne : lines ≠ [])
    (h : ∀ line ∈ lines, OneLine line) :
    (("\n".intercalate lines).toList.splitOn '\n').map String.ofList = lines := by
  have hchars : ∀ cs ∈ lines.map String.toList, '\n' ∉ cs := by
    intro cs hcs
    obtain ⟨line, hline, rfl⟩ := List.mem_map.mp hcs
    exact h line hline
  have hlines : lines.map String.toList ≠ [] := by simpa using hne
  have hjoined : ("\n".intercalate lines).toList = ['\n'].intercalate (lines.map String.toList) :=
    String.toList_intercalate
  rw [hjoined, List.splitOn_intercalate '\n' hchars hlines, List.map_map]
  simp [Function.comp_def]

theorem OneLine.append {text other : String} (h : OneLine text) (hother : OneLine other) :
    OneLine (text ++ other) := by
  rw [OneLine, String.toList_append, List.mem_append]
  exact not_or.mpr ⟨h, hother⟩

theorem oneLine_listed {items : List String} (h : ∀ item ∈ items, OneLine item) :
    OneLine (listed items) := by
  induction items with
  | nil => decide
  | cons first later ih =>
    have hfirst : OneLine first := h first List.mem_cons_self
    cases later with
    | nil => simpa [listed] using hfirst
    | cons second later =>
      rw [listed_cons_cons]
      have hlater : OneLine (listed (second :: later)) :=
        ih fun item hi => h item (List.mem_cons_of_mem _ hi)
      exact (hfirst.append (by decide)).append hlater

theorem oneLine_clause {keyword : String} {value : Option String} (hkeyword : OneLine keyword)
    (h : ∀ v ∈ value, OneLine v) : ∀ line ∈ clause (fun v => keyword ++ v) value, OneLine line := by
  intro line hline
  obtain ⟨v, hv, rfl⟩ := List.mem_map.mp hline
  exact hkeyword.append (h v (Option.mem_toList.mp hv))

theorem AreaFilter.oneLine_lines {f : AreaFilter} (h : ∀ text ∈ f.texts, OneLine text) :
    ∀ line ∈ f.lines, OneLine line := by
  have hcodes : OneLine (listed f.codes) :=
    oneLine_listed fun code hcode => h code (List.mem_cons_of_mem _ hcode)
  have htype : OneLine f.areaType := h f.areaType List.mem_cons_self
  rw [AreaFilter.lines, List.forall_mem_cons, List.forall_mem_singleton]
  refine ⟨by decide, ?_⟩
  exact ((OneLine.append (by decide) htype).append (by decide)).append hcodes

theorem Define.oneLine_lines {d : Define} (h : ∀ text ∈ d.texts, OneLine text) :
    ∀ line ∈ d.lines, OneLine line := by
  have hname : OneLine d.name := h d.name List.mem_cons_self
  have hexpression : OneLine d.expression := h d.expression (by simp [Define.texts])
  simp only [Define.lines, List.forall_mem_cons]
  exact ⟨OneLine.append (by decide) hname, OneLine.append (by decide) hexpression, by decide,
    by decide, by simp⟩

theorem Subject.oneLine_line {s : Subject} (h : ∀ text ∈ s.texts, OneLine text) :
    OneLine s.line := by
  cases s with
  | single name => exact OneLine.append (by decide) (h name List.mem_cons_self)
  | grouped areaLevel identifiers =>
    have hlevel : OneLine areaLevel := h areaLevel List.mem_cons_self
    have hitems : OneLine (listed identifiers) :=
      oneLine_listed fun item hi => h item (List.mem_cons_of_mem _ hi)
    exact ((OneLine.append (by decide) hlevel).append (by decide)).append hitems

theorem Table.oneLine_lines {t : Table} (htitle : ∀ v ∈ t.title, OneLine v)
    (hsubject : ∀ text ∈ t.subject.texts, OneLine text) (hby : ∀ b ∈ t.breakdowns, OneLine b)
    (hbreak : ∀ v ∈ t.areaBreak, OneLine v) : ∀ line ∈ t.lines, OneLine line := by
  have hquoted : ∀ v ∈ t.title.map (fun title => title ++ "\""), OneLine v := by
    intro v hv
    obtain ⟨title, ht, rfl⟩ := Option.map_eq_some_iff.mp hv
    exact (htitle title ht).append (by decide)
  have hkind : OneLine (indent ++ "AS " ++ t.kind.keyword) := by
    cases t.kind <;> decide
  have hbyLines : ∀ line ∈ t.breakdowns.map (fun v => deepIndent ++ "BY " ++ v), OneLine line := by
    intro line hline
    obtain ⟨b, hb, rfl⟩ := List.mem_map.mp hline
    exact OneLine.append (by decide) (hby b hb)
  have hflag {fixed : String} (given : Bool) (hfixed : OneLine fixed) :
      ∀ line ∈ (if given then [fixed] else []), OneLine line := by
    cases given <;> simp [hfixed]
  rw [t.lines_eq]
  simp only [List.forall_mem_cons, List.forall_mem_append]
  exact ⟨by decide, oneLine_clause (by decide) hquoted, hkind, Subject.oneLine_line hsubject,
    hbyLines, hflag _ (by decide), oneLine_clause (by decide) hbreak, hflag _ (by decide), by simp⟩

theorem Document.oneLine_lines {d : Document} (h : ∀ text ∈ d.texts, OneLine text) :
    ∀ line ∈ d.lines, OneLine line := by
  simp only [texts, List.forall_mem_append, List.forall_mem_flatMap, Option.mem_toList] at h
  obtain ⟨⟨⟨⟨⟨⟨hfilter, huniverse⟩, hdefines⟩, htitle⟩, hsubject⟩, hby⟩, hbreak⟩ := h
  have hfilterLines : ∀ line ∈ d.areaFilter.elim [] AreaFilter.lines, OneLine line := by
    cases hd : d.areaFilter with
    | none => simp
    | some f =>
      rw [hd] at hfilter
      exact AreaFilter.oneLine_lines hfilter
  have hdefineLines : ∀ line ∈ d.defines.flatMap Define.lines, OneLine line := by
    intro line hline
    obtain ⟨define, hdefine, hline⟩ := List.mem_flatMap.mp hline
    exact Define.oneLine_lines (hdefines define hdefine) line hline
  simp only [lines, runLines, List.forall_mem_append, List.forall_mem_singleton]
  exact ⟨⟨⟨⟨⟨by decide, hfilterLines⟩, oneLine_clause (by decide) huniverse⟩, by decide⟩,
    hdefineLines⟩, Table.oneLine_lines htitle hsubject hby hbreak⟩

/-! ### The whole document -/

theorem Document.ofLines?_lines {d : Document} (hf : ∀ f ∈ d.areaFilter, f.Plain)
    (hs : d.table.subject.Plain d.table.kind) : ofLines? d.lines = some d := by
  have hrun : d.lines = "RUNDEF Job" :: (d.areaFilter.elim [] AreaFilter.lines ++
      (clause (fun v => indent ++ "UNIVERSE " ++ v) d.universeFilter ++
        "" :: (d.defines.flatMap Define.lines ++ d.table.lines))) := by
    simp [lines, runLines]
  -- Each section ends where the next line is not one of its own.
  have huniverse : NotNext (indent ++ "UNIVERSE ")
      ("" :: (d.defines.flatMap Define.lines ++ d.table.lines)) := notNext_cons (by decide)
  have hfilter : NotNext (indent ++ "SELECTION INLINE,")
      (clause (fun v => indent ++ "UNIVERSE " ++ v) d.universeFilter ++
        "" :: (d.defines.flatMap Define.lines ++ d.table.lines)) :=
    notNext_append (notNext_clause (by decide) d.universeFilter) (notNext_cons (by decide))
  have hdefines : NotNext "DEFINE " d.table.lines := by
    rw [d.table.lines_eq]
    exact notNext_cons (by decide)
  rw [ofLines?, hrun, dropLine?_cons]
  simp only [Option.bind_eq_bind, Option.bind_some, takeFilter_lines hf hfilter,
    takeClause_clause huniverse, dropLine?_cons, takeDefines_lines hdefines,
    Table.ofLines?_lines hs]
  rfl

theorem Document.Plain.splitOn_render {d : Document} (h : d.Plain) :
    (d.render.toList.splitOn '\n').map String.ofList = d.lines := by
  have hne : d.lines ≠ [] := by simp [Document.lines, Document.runLines]
  exact splitOn_newline_intercalate hne (Document.oneLine_lines h.one_line)

theorem Document.ofText?_render {d : Document} (h : d.Plain) : ofText? d.render = some d := by
  rw [ofText?, h.splitOn_render]
  exact ofLines?_lines h.area_filter h.subject

end Census.Query
