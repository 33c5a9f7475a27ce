import Mathlib
import Census.Proofs.FeedComposition
import Census.Proofs.FeedJoin
import Census.Proofs.HeaderPairs
import Census.Proofs.MovedLines

/-!
A feed cut in two. Where no name waits for its entity, no entity for its name, and no category line
stands at the cut, the second part is read as it would be alone, further down.
-/

namespace Census

variable {layout : Layout}

/-- Every category line has a header field in front of it. -/
def HeadedFirst (layout : Layout) (lines : List FeedLine) : Prop :=
  ∀ before code label later, lines = before ++ .category code label :: later →
    headerFields layout before ≠ []

/-- The first text ends its lines and leaves either no header at all or a complete one, and the
second has no category line that would belong to that one. -/
structure CutsWell (layout : Layout) (first second : String) : Prop where
  ended : EndsLines first
  settled : headerFields layout (feedLines first) = [] ∨
    ∃ entityName variableName,
      Header.after layout (feedLines first) = .block entityName variableName
  headed : HeadedFirst layout (feedLines second)

theorem Header.after_of_no_field {lines : List FeedLine} (h : headerFields layout lines = []) :
    after layout lines = .awaiting none none := by
  rw [after_eq_foldl_read, h]
  rfl

/-- A header field inside a block counts as one at the start of a text. -/
theorem Header.next_block {line : FeedLine} {f : HeaderField}
    (h : layout.headerField? line = some f) (entityName variableName : String) :
    (block entityName variableName).next layout line = (awaiting none none).next layout line := by
  rw [next_eq_read, next_eq_read, h]
  cases f with
  | name value => rfl
  | entity value => rfl

theorem Header.next_of_no_field {line : FeedLine} (h : layout.headerField? line = none)
    (header : Header) : header.next layout line = header := by
  rw [next_eq_read, h]
  rfl

theorem HeadedFirst.tail {line : FeedLine} {later : List FeedLine}
    (h : HeadedFirst layout (line :: later)) (hline : layout.headerField? line = none) :
    HeadedFirst layout later := by
  intro before code label rest hlater
  have hfields : headerFields layout (line :: before) ≠ [] :=
    h (line :: before) code label rest (congrArg (List.cons line) hlater)
  rwa [headerFields, List.filterMap_cons_none hline] at hfields

theorem headedFirst_of_headerField {line : FeedLine} {f : HeaderField}
    (h : layout.headerField? line = some f) (later : List FeedLine) :
    HeadedFirst layout (line :: later) := by
  intro before code label rest hlines
  cases before with
  | nil =>
    obtain ⟨rfl, -⟩ := List.cons.inj hlines
    simp [Layout.headerField?] at h
  | cons first before =>
    obtain ⟨rfl, -⟩ := List.cons.inj hlines
    simp [headerFields, h]

/-- In front of the first header field there is nothing for a block to attach, and that field
forgets the block. -/
theorem entriesFrom_block_of_headedFirst {lines : List FeedLine} (h : HeadedFirst layout lines)
    (entityName variableName : String) (n : ℕ) :
    entriesFrom layout (.block entityName variableName) n lines =
      entriesFrom layout (.awaiting none none) n lines := by
  induction lines generalizing n with
  | nil => rfl
  | cons line later ih =>
    have hentry : Header.entry? (.block entityName variableName) n line =
        Header.entry? (.awaiting none none) n line := by
      cases line with
      | category code label => exact absurd rfl (h [] code label later rfl)
      | field label value => rfl
      | malformed => rfl
      | other => rfl
    rw [entriesFrom, entriesFrom, hentry]
    cases hfield : layout.headerField? line with
    | some f => rw [Header.next_block hfield]
    | none =>
      rw [Header.next_of_no_field hfield, Header.next_of_no_field hfield,
        ih (h.tail hfield) (n + 1)]

theorem CutsWell.feedEntries {first second : String} (h : CutsWell layout first second) :
    feedEntries layout (first ++ second) = feedEntries layout first ++
      entriesFrom layout (.awaiting none none) ((feedLines first).length + 1)
        (feedLines second) := by
  rw [feedEntries_append h.ended]
  congr 1
  rcases h.settled with hnone | ⟨entityName, variableName, hblock⟩
  · rw [Header.after_of_no_field hnone]
  · rw [hblock, entriesFrom_block_of_headedFirst h.headed]

/-- With `k` lines in front, a text has the entries it has alone, `k` lines further down. -/
theorem feedEntries_shifted (layout : Layout) (k : ℕ) (text : String) :
    List.Forall₂ (Entry.Moved fun n n' => n' = n + k) (feedEntries layout text)
      (entriesFrom layout (.awaiting none none) (k + 1) (feedLines text)) := by
  have haligned := aligned_shifted layout k 1 (feedLines text)
  rw [Nat.add_comm 1] at haligned
  exact haligned.entriesFrom (.awaiting none none)

namespace Attaching

theorem run_append (mode : CategoryMode) (s : Attaching) (entries entries' : List Entry) :
    s.run mode (entries ++ entries') = (s.run mode entries).bind fun s => s.run mode entries' :=
  List.foldlM_append

/-- A feed does to a dictionary that has received some lines what it does to the dictionary before
that, and its lines go behind theirs. -/
theorem run_feedEntries {d : Dictionary} (hd : d.NamesDistinct) (layout : Layout)
    (done : List Attachment) (skipped : ℕ) (text : String) :
    (reached layout.categoryMode d done skipped).run layout.categoryMode (feedEntries layout text) =
      (d.attach layout text).map fun result =>
        reached layout.categoryMode d (done ++ inBlockLines layout text)
          (skipped + result.2.skipped) := by
  rw [run_reached hd, attachments_feedEntries, count_skip_feedEntries, Dictionary.attach_eq hd]
  cases (inBlockLines layout text).findSome? d.refusal? with
  | some err => rfl
  | none => rfl

theorem run_of_attach_eq_ok {d : Dictionary} (hd : d.NamesDistinct) {text : String}
    {filled : Dictionary} {report : Report} (h : d.attach layout text = .ok (filled, report)) :
    (⟨d, {}, []⟩ : Attaching).run layout.categoryMode (feedEntries layout text) =
      .ok (reached layout.categoryMode d (inBlockLines layout text) report.skipped) := by
  have hrun := run_feedEntries hd layout [] 0 text
  rw [h, reached_nil] at hrun
  simpa only [Except.map, List.nil_append, Nat.zero_add] using hrun

end Attaching

namespace Dictionary

/-- What attaching both parts comes to when the first part alone is accepted: what the second part
alone comes to, with the lines of both and the errors further down. -/
theorem attach_append {d : Dictionary} (hd : d.NamesDistinct) {first second : String}
    (hcut : CutsWell layout first second) {filled : Dictionary} {report : Report}
    (hfirst : d.attach layout first = .ok (filled, report)) :
    SameOutcome (fun n n' => n' = n + (feedLines first).length)
      ((d.attach layout second).map fun result =>
        (d.filled layout.categoryMode (inBlockLines layout first ++ inBlockLines layout second),
          (⟨report.attached + (inBlockLines layout second).length,
            report.skipped + result.2.skipped⟩ : Report)))
      (d.attach layout (first ++ second)) := by
  let s := Attaching.reached layout.categoryMode d (inBlockLines layout first) report.skipped
  have hrun := Attaching.run_of_attach_eq_ok hd hfirst
  have hmoved := feedEntries_shifted layout (feedLines first).length second
  have hsecond := (Attaching.run_of_moved hmoved layout.categoryMode s).map fun s =>
    (s.dictionary, s.report)
  have hwhole : d.attach layout (first ++ second) =
      (s.run layout.categoryMode (entriesFrom layout (.awaiting none none)
        ((feedLines first).length + 1) (feedLines second))).map fun s =>
          (s.dictionary, s.report) := by
    rw [attach, hcut.feedEntries, Attaching.run_append, hrun]
    rfl
  have hreport : report.attached = (inBlockLines layout first).length := by
    obtain ⟨-, -, rfl⟩ := (attach_eq_ok_iff hd).mp hfirst
    rfl
  rw [Attaching.run_feedEntries hd] at hsecond
  rw [hwhole, hreport]
  cases hresult : d.attach layout second with
  | error err => rwa [hresult] at hsecond
  | ok result =>
    rw [hresult] at hsecond
    simpa only [Except.map, Attaching.reached, List.length_append] using hsecond

end Dictionary

theorem CategoryMode.merge_merge {mode : CategoryMode} {first second : List Category}
    (h : mode = .append ∨ first = [] ∨ second = []) (old : List Category) :
    mode.merge (mode.merge old first) second = mode.merge old (first ++ second) := by
  rcases h with rfl | rfl | rfl
  · exact List.append_assoc old first second
  · rw [merge_nil, List.nil_append]
  · rw [merge_nil, List.append_nil]

/-- A feed in two parts, cut where the second one is read for itself. It fails as the first part
does; when that is accepted it fails as the second part does, the line counted behind those of the
first; and when both are accepted it adds up their reports and gives every variable its lines of the
first part and then those of the second, in place of its old list or behind it. Attaching one part
after the other comes to the same, unless lists are replaced and a variable has lines in both. -/
theorem split_feed_joins_outcomes {built : Layout} {d : Dictionary} (hd : d.Reachable built)
    (layout : Layout) {first second : String} (hcut : CutsWell layout first second) :
    (∀ err, d.attach layout first = .error err →
      d.attach layout (first ++ second) = .error err) ∧
    (∀ d₁ report₁ err, d.attach layout first = .ok (d₁, report₁) →
      d.attach layout second = .error err →
      d₁.attach layout second = .error err ∧
      ∃ err', err.Moved (fun n n' => n' = n + (feedLines first).length) err' ∧
        d.attach layout (first ++ second) = .error err') ∧
    (∀ d₁ report₁ d₂ report₂, d.attach layout first = .ok (d₁, report₁) →
      d.attach layout second = .ok (d₂, report₂) →
      ∃ whole, d.attach layout (first ++ second) =
          .ok (whole, ⟨report₁.attached + report₂.attached, report₁.skipped + report₂.skipped⟩) ∧
        whole = d.mapCategories (fun e v old => layout.categoryMode.merge old
          (categoriesGiven layout first e v ++ categoriesGiven layout second e v)) ∧
        ((layout.categoryMode = .append ∨
            ∀ e v, categoriesGiven layout first e v = [] ∨ categoriesGiven layout second e v = []) →
          d₁.attach layout second = .ok (whole, report₂))) := by
  have hdistinct := hd.namesDistinct
  refine ⟨?_, ?_, ?_⟩
  · intro err hfirst
    rw [Dictionary.attach] at hfirst ⊢
    rw [hcut.feedEntries, Attaching.run_append]
    cases hrun : (⟨d, {}, []⟩ : Attaching).run layout.categoryMode (feedEntries layout first) with
    | ok s => simp [hrun, Except.map] at hfirst
    | error err' => rwa [hrun] at hfirst
  · intro d₁ report₁ err hfirst hsecond
    have hwhole := Dictionary.attach_append hdistinct hcut hfirst
    obtain ⟨-, rfl, -⟩ := (Dictionary.attach_eq_ok_iff hdistinct).mp hfirst
    refine ⟨Dictionary.attach_mapCategories_eq_error hdistinct hsecond _, ?_⟩
    rw [hsecond, Except.map] at hwhole
    generalize d.attach layout (first ++ second) = outcome at hwhole ⊢
    cases hwhole with
    | error hmoved => exact ⟨_, hmoved, rfl⟩
  · intro d₁ report₁ d₂ report₂ hfirst hsecond
    have hwhole := Dictionary.attach_append hdistinct hcut hfirst
    have hbehind := Dictionary.attach_mapCategories hdistinct hsecond
    obtain ⟨-, rfl, -⟩ := (Dictionary.attach_eq_ok_iff hdistinct).mp hfirst
    obtain ⟨-, -, rfl⟩ := (Dictionary.attach_eq_ok_iff hdistinct).mp hsecond
    have hgiven (e v : String) :
        categoriesFor (inBlockLines layout first ++ inBlockLines layout second) e v =
          categoriesGiven layout first e v ++ categoriesGiven layout second e v :=
      categoriesFor_append _ _ e v
    refine ⟨d.filled layout.categoryMode (inBlockLines layout first ++ inBlockLines layout second),
      ?_, ?_, ?_⟩
    · rw [hsecond, Except.map] at hwhole
      generalize d.attach layout (first ++ second) = outcome at hwhole ⊢
      cases hwhole with
      | ok result => rfl
    · simp only [Dictionary.filled, hgiven]
    · intro happend
      have hmerge (e v : String) (old : List Category) :
          layout.categoryMode.merge
              (layout.categoryMode.merge old (categoriesGiven layout first e v))
              (categoriesGiven layout second e v) =
            layout.categoryMode.merge old
              (categoriesGiven layout first e v ++ categoriesGiven layout second e v) :=
        CategoryMode.merge_merge (happend.imp_right fun h => h e v) old
      rw [Dictionary.filled, hbehind]
      simp only [Dictionary.filled, hgiven, ← hmerge]
      rfl

/-- The first part leaves a block; the second one starts a new one, and the lines of both are added
to the lists. A second part that names no variable fails on the third of its lines, the eighth of
the whole. -/
theorem provinceCensus_split_feed :
    provinceCensus.Reachable {} ∧
      CutsWell { categoryMode := .append } sexFeed regionFeed ∧
      CutsWell { categoryMode := .append } sexFeed "Entidad : PROV\nNombre : P09\n1. A\n" ∧
      provinceCensus.attach { categoryMode := .append } sexFeed = .ok (sexCensus, ⟨2, 1⟩) ∧
      provinceCensus.attach { categoryMode := .append } regionFeed = .ok (regionCensus, ⟨2, 0⟩) ∧
      (∃ whole, provinceCensus.attach { categoryMode := .append } (sexFeed ++ regionFeed) =
          .ok (whole, ⟨4, 1⟩) ∧
        sexCensus.attach { categoryMode := .append } regionFeed = .ok (whole, ⟨2, 0⟩)) ∧
      provinceCensus.attach { categoryMode := .append }
        (sexFeed ++ "Entidad : PROV\nNombre : P09\n1. A\n") =
          .error (.unknownVariable "PROV" "P09" 8) := by
  have hsettled : Header.after { categoryMode := .append } (feedLines sexFeed) =
      .block "PERSONA" "P02" := by
    decide
  have hended : EndsLines sexFeed := by simp [EndsLines, sexFeed]
  have hregion : feedLines regionFeed = [.field "Entidad" "PROV", .field "Nombre" "REDCODEN",
      .category "01" "Norte", .category "02" "Sur"] := by
    decide
  have hunlisted : feedLines "Entidad : PROV\nNombre : P09\n1. A\n" =
      [.field "Entidad" "PROV", .field "Nombre" "P09", .category "1" "A"] := by
    decide
  have hcut : CutsWell { categoryMode := .append } sexFeed regionFeed :=
    ⟨hended, Or.inr ⟨_, _, hsettled⟩, hregion ▸ headedFirst_of_headerField rfl _⟩
  have hcut' : CutsWell { categoryMode := .append } sexFeed
      "Entidad : PROV\nNombre : P09\n1. A\n" :=
    ⟨hended, Or.inr ⟨_, _, hsettled⟩, hunlisted ▸ headedFirst_of_headerField rfl _⟩
  have hfirst : provinceCensus.attach { categoryMode := .append } sexFeed =
      .ok (sexCensus, ⟨2, 1⟩) := by
    decide
  have hsecond : provinceCensus.attach { categoryMode := .append } regionFeed =
      .ok (regionCensus, ⟨2, 0⟩) := by
    decide
  have hrefused : provinceCensus.attach { categoryMode := .append }
      "Entidad : PROV\nNombre : P09\n1. A\n" = .error (.unknownVariable "PROV" "P09" 3) := by
    decide
  obtain ⟨-, -, hboth⟩ := split_feed_joins_outcomes reachable_provinceCensus _ hcut
  obtain ⟨-, hfails, -⟩ := split_feed_joins_outcomes reachable_provinceCensus _ hcut'
  obtain ⟨whole, hwhole, -, hbehind⟩ := hboth _ _ _ _ hfirst hsecond
  obtain ⟨-, err', hmoved, herr⟩ := hfails _ _ _ hfirst hrefused
  have hlength : (feedLines sexFeed).length = 5 := by decide
  cases hmoved with
  | unknownVariable entityName variableName hline =>
    rw [hlength] at hline
    subst hline
    exact ⟨reachable_provinceCensus, hcut, hcut', hfirst, hsecond,
      ⟨whole, hwhole, hbehind (Or.inl rfl)⟩, herr⟩

end Census
