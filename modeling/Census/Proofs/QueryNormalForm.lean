import Mathlib
import Census.Query.Request
import Census.Proofs.DocumentReading
import Census.Proofs.Prelude

/-!
What the text of a query says about the request. Two requests have the same text just when they
have the same normal form, which forgets how an absent option was left out and whether the name of
an area was asked for by a switch or by a variable.
-/

namespace Census.Query

theorem present_present (value : Option String) : present (present value) = present value := by
  rw [present, present, Option.filter_filter]
  simp

theorem eq_some_of_mem_present {value : Option String} {v : String} (h : v ∈ present value) :
    v ∈ value :=
  (Option.filter_eq_some_iff.mp h).1

def AreaListRequest.normal (q : AreaListRequest) : AreaListRequest where
  areaLevel := q.areaLevel
  identifiers :=
    (if q.includeAreaName then [areaNameVariable q.areaLevel] else []) ++ q.identifiers
  areaFilter := q.areaFilter
  universeFilter := present q.universeFilter
  title := present q.title
  includeAreaName := false

def CounterRequest.normal (q : CounterRequest) : CounterRequest :=
  { q with universeFilter := present q.universeFilter, title := present q.title }

/-- The breakdowns that are there, in order. -/
def MedianRequest.breakdowns (q : MedianRequest) : List String :=
  [q.byVar1, q.byVar2].filterMap present

def MedianRequest.normal (q : MedianRequest) : MedianRequest :=
  { q with
    byVar1 := q.breakdowns[0]?
    byVar2 := q.breakdowns[1]?
    areaBreak := present q.areaBreak
    universeFilter := present q.universeFilter
    title := present q.title }

def Request.normal : Request → Request
  | areaList q => .areaList q.normal
  | counter q => .counter q.normal
  | median q => .median q.normal
  | reserved r => .reserved r

theorem Request.kind_normal (r : Request) : r.normal.kind = r.kind := by
  cases r <;> rfl

/-- Up to two present breakdowns are kept, in order, when they are put back in front. -/
theorem filterMap_present_front {breakdowns : List String} (hlength : breakdowns.length ≤ 2)
    (h : ∀ b ∈ breakdowns, present (some b) = some b) :
    [breakdowns[0]?, breakdowns[1]?].filterMap present = breakdowns := by
  match breakdowns with
  | [] => rfl
  | [first] =>
    have hfirst := h first List.mem_cons_self
    have hnone : present none = none := rfl
    simp [hfirst, hnone]
  | [first, second] =>
    have hfirst := h first List.mem_cons_self
    have hsecond := h second (List.mem_cons_of_mem _ List.mem_cons_self)
    simp [hfirst, hsecond]
  | _ :: _ :: _ :: _ => simp at hlength

theorem MedianRequest.breakdowns_normal (q : MedianRequest) :
    q.normal.breakdowns = q.breakdowns := by
  apply filterMap_present_front (List.length_filterMap_le present [q.byVar1, q.byVar2])
  intro b hb
  obtain ⟨value, -, hvalue⟩ := List.mem_filterMap.mp hb
  rw [← hvalue, present_present]

def AreaListRequest.written (q : AreaListRequest) : Document where
  areaFilter := q.areaFilter
  universeFilter := present q.universeFilter
  table := {
    title := present q.title
    kind := .areaList
    subject := areaSubject q.areaLevel q.identifiers q.includeAreaName }

def CounterRequest.written (q : CounterRequest) : Document where
  areaFilter := q.areaFilter
  universeFilter := present q.universeFilter
  defines := [Define.count (counterVariable q.areaLevel) q.countedEntity]
  table := {
    title := present q.title
    kind := .areaList
    subject := areaSubject q.areaLevel [counterVariable q.areaLevel] q.includeAreaName
    total := q.includeTotal }

def MedianRequest.written (q : MedianRequest) : Document where
  areaFilter := q.areaFilter
  universeFilter := present q.universeFilter
  table := {
    title := present q.title
    kind := .median
    subject := .single q.variableName
    breakdowns := q.breakdowns
    completeNames := q.includeFullNames
    areaBreak := present q.areaBreak }

theorem AreaListRequest.document_eq_ok_iff {q : AreaListRequest} {d : Document} :
    q.document = .ok d ↔
      Text.isBlankText q.areaLevel = false ∧ q.identifiers ≠ [] ∧ q.written = d := by
  rw [document]
  split_ifs with hlevel hidentifiers
  · simp [hlevel]
  · simp [List.isEmpty_iff.mp hidentifiers]
  · have hne : q.identifiers ≠ [] := fun h => hidentifiers (List.isEmpty_iff.mpr h)
    simp [hlevel, hne, written]

theorem CounterRequest.document_eq_ok_iff {q : CounterRequest} {d : Document} :
    q.document = .ok d ↔ Text.isBlankText q.areaLevel = false ∧
      Text.isBlankText q.countedEntity = false ∧ q.written = d := by
  rw [document]
  split_ifs with hlevel hentity
  · simp [hlevel]
  · simp [hentity]
  · simp [hlevel, hentity, written]

theorem MedianRequest.document_eq_ok_iff {q : MedianRequest} {d : Document} :
    q.document = .ok d ↔ Text.isBlankText q.variableName = false ∧ q.written = d := by
  rw [document]
  split_ifs with hname
  · simp [hname]
  · simp [hname, written, breakdowns]

/-- What can be written in full can be written in normal form, and comes to the same document. -/
theorem Request.document_normal {r : Request} {d : Document} (h : r.document = .ok d) :
    r.normal.document = .ok d := by
  cases r with
  | areaList q =>
    obtain ⟨hlevel, hidentifiers, hd⟩ := AreaListRequest.document_eq_ok_iff.mp h
    have hne : q.normal.identifiers ≠ [] := List.append_ne_nil_of_right_ne_nil _ hidentifiers
    have hsame : q.normal.written = q.written := by
      simp [AreaListRequest.written, AreaListRequest.normal, areaSubject, present_present]
    exact AreaListRequest.document_eq_ok_iff.mpr ⟨hlevel, hne, hsame.trans hd⟩
  | counter q =>
    obtain ⟨hlevel, hentity, hd⟩ := CounterRequest.document_eq_ok_iff.mp h
    have hsame : q.normal.written = q.written := by
      simp [CounterRequest.written, CounterRequest.normal, present_present]
    exact CounterRequest.document_eq_ok_iff.mpr ⟨hlevel, hentity, hsame.trans hd⟩
  | median q =>
    obtain ⟨hname, hd⟩ := MedianRequest.document_eq_ok_iff.mp h
    have hsame : q.normal.written = q.written := by
      rw [MedianRequest.written, q.breakdowns_normal]
      simp [MedianRequest.written, MedianRequest.normal, present_present]
    exact MedianRequest.document_eq_ok_iff.mpr ⟨hname, hsame.trans hd⟩
  | reserved r => exact h

/-- The request in normal form that a document answers. A definition is there just for a count,
and a count without the area's name lists a single variable. -/
def Document.request (d : Document) : Request :=
  match d.table.subject, d.defines with
  | .single name, _ => .median {
      variableName := name
      byVar1 := d.table.breakdowns[0]?
      byVar2 := d.table.breakdowns[1]?
      includeFullNames := d.table.completeNames
      areaBreak := d.table.areaBreak
      areaFilter := d.areaFilter
      universeFilter := d.universeFilter
      title := d.table.title }
  | .grouped areaLevel identifiers, [] => .areaList {
      areaLevel, identifiers
      areaFilter := d.areaFilter
      universeFilter := d.universeFilter
      title := d.table.title }
  | .grouped areaLevel identifiers, define :: _ => .counter {
      areaLevel
      countedEntity := (behind? "COUNT " define.expression).getD ""
      areaFilter := d.areaFilter
      universeFilter := d.universeFilter
      title := d.table.title
      includeAreaName := identifiers.length == 2
      includeTotal := d.table.total }

theorem Request.request_document {r : Request} {d : Document} (h : r.document = .ok d) :
    d.request = r.normal := by
  cases r with
  | areaList q =>
    obtain ⟨-, -, rfl⟩ := AreaListRequest.document_eq_ok_iff.mp h
    rfl
  | counter q =>
    obtain ⟨-, -, rfl⟩ := CounterRequest.document_eq_ok_iff.mp h
    simp only [Document.request, CounterRequest.written, areaSubject, Define.count,
      behind?_append, Option.getD_some, Request.normal, CounterRequest.normal]
    cases q.includeAreaName <;> rfl
  | median q =>
    obtain ⟨-, rfl⟩ := MedianRequest.document_eq_ok_iff.mp h
    rfl
  | reserved r => cases h

def Request.areaFilter : Request → Option AreaFilter
  | areaList q => q.areaFilter
  | counter q => q.areaFilter
  | median q => q.areaFilter
  | reserved _ => none

/-- The texts that come to stand in a list. -/
def Request.listedTexts : Request → List String
  | areaList q => q.areaLevel :: q.identifiers
  | counter q => [q.areaLevel]
  | median _ => []
  | reserved _ => []

/-- The texts outside the area filter and outside lists. -/
def Request.freeTexts : Request → List String
  | areaList q => q.universeFilter.toList ++ q.title.toList
  | counter q => q.countedEntity :: (q.universeFilter.toList ++ q.title.toList)
  | median q => q.variableName :: (q.byVar1.toList ++ q.byVar2.toList ++ q.areaBreak.toList ++
      q.universeFilter.toList ++ q.title.toList)
  | reserved _ => []

/-- Every text field of a request. -/
def Request.texts (r : Request) : List String :=
  r.areaFilter.elim [] AreaFilter.texts ++ r.listedTexts ++ r.freeTexts

/-- Nothing in the fields can be taken for the end of a line, of a list item or of an area type. -/
structure Request.Plain (r : Request) : Prop where
  one_line : ∀ text ∈ r.texts, OneLine text
  area_filter : ∀ f ∈ r.areaFilter, f.Plain
  listed : ∀ item ∈ r.listedTexts, ',' ∉ item.toList

/-- A character that neither the level nor the items have is nowhere in a table of them. -/
theorem not_mem_areaSubject {c : Char} {areaLevel : String} {identifiers : List String}
    (hname : c ∉ ".NOM".toList) (h : ∀ item ∈ areaLevel :: identifiers, c ∉ item.toList)
    (named : Bool) :
    ∀ item ∈ (areaSubject areaLevel identifiers named).texts, c ∉ item.toList := by
  have hlevel : c ∉ areaLevel.toList := h areaLevel List.mem_cons_self
  have hvariable : c ∉ (areaNameVariable areaLevel).toList := by
    rw [areaNameVariable, String.toList_append, String.toList_append]
    simp only [List.mem_append, not_or]
    exact ⟨⟨hlevel, hname⟩, hlevel⟩
  intro item hitem
  simp only [areaSubject, Subject.texts, List.mem_cons, List.mem_append] at hitem
  rcases hitem with rfl | hitem | hitem
  · exact hlevel
  · cases named with
    | true => rwa [List.mem_singleton.mp hitem]
    | false => cases hitem
  · exact h item (List.mem_cons_of_mem _ hitem)

theorem not_mem_counterVariable {c : Char} {areaLevel : String} (hname : c ∉ ".COUNTER".toList)
    (h : c ∉ areaLevel.toList) : c ∉ (counterVariable areaLevel).toList := by
  rw [counterVariable, String.toList_append, List.mem_append]
  exact not_or.mpr ⟨h, hname⟩

theorem plain_areaSubject {areaLevel : String} {identifiers : List String}
    (hne : identifiers ≠ []) (h : ∀ item ∈ areaLevel :: identifiers, ',' ∉ item.toList)
    (named : Bool) : (areaSubject areaLevel identifiers named).Plain .areaList :=
  .grouped (List.append_ne_nil_of_right_ne_nil _ hne) (not_mem_areaSubject (by decide) h named)

theorem oneLine_present {value : Option String} (h : ∀ v ∈ value, OneLine v) :
    ∀ v ∈ present value, OneLine v :=
  fun v hv => h v (eq_some_of_mem_present hv)

theorem AreaListRequest.plain_written {q : AreaListRequest} (hq : (Request.areaList q).Plain)
    (hne : q.identifiers ≠ []) : q.written.Plain := by
  have hline := hq.one_line
  simp only [Request.texts, Request.areaFilter, Request.listedTexts, Request.freeTexts,
    List.forall_mem_append, Option.mem_toList] at hline
  obtain ⟨⟨hfilter, hitems⟩, huniverse, htitle⟩ := hline
  have hsubject := plain_areaSubject hne hq.listed q.includeAreaName
  refine ⟨?_, hq.area_filter, hsubject⟩
  simp only [Document.texts, written, List.forall_mem_append, Option.mem_toList, List.flatMap_nil]
  exact ⟨⟨⟨⟨⟨⟨hfilter, oneLine_present huniverse⟩, by simp⟩, oneLine_present htitle⟩,
    not_mem_areaSubject (by decide) hitems q.includeAreaName⟩, by simp⟩, by simp⟩

/-- The variable defined is made of the level, and the definition holds the counted entity. -/
theorem CounterRequest.plain_written {q : CounterRequest} (hq : (Request.counter q).Plain) :
    q.written.Plain := by
  have hline := hq.one_line
  simp only [Request.texts, Request.areaFilter, Request.listedTexts, Request.freeTexts,
    List.forall_mem_append, List.forall_mem_cons, Option.mem_toList] at hline
  obtain ⟨⟨hfilter, hlevel, -⟩, hentity, huniverse, htitle⟩ := hline
  have hitems {c : Char} (hname : c ∉ ".COUNTER".toList) (hc : c ∉ q.areaLevel.toList) :
      ∀ item ∈ [q.areaLevel, counterVariable q.areaLevel], c ∉ item.toList := by
    rw [List.forall_mem_cons, List.forall_mem_singleton]
    exact ⟨hc, not_mem_counterVariable hname hc⟩
  have hcommas : ',' ∉ q.areaLevel.toList := hq.listed q.areaLevel List.mem_cons_self
  have hsubject := plain_areaSubject (List.cons_ne_nil _ _) (hitems (by decide) hcommas)
    q.includeAreaName
  refine ⟨?_, hq.area_filter, hsubject⟩
  have hdefine : ∀ text ∈ (Define.count (counterVariable q.areaLevel) q.countedEntity).texts,
      OneLine text := by
    simp only [Define.texts, Define.count, List.forall_mem_cons]
    exact ⟨not_mem_counterVariable (by decide) hlevel, OneLine.append (by decide) hentity,
      by simp⟩
  simp only [Document.texts, written, List.forall_mem_append, Option.mem_toList,
    List.flatMap_singleton]
  exact ⟨⟨⟨⟨⟨⟨hfilter, oneLine_present huniverse⟩, hdefine⟩, oneLine_present htitle⟩,
    not_mem_areaSubject (by decide) (hitems (by decide) hlevel) q.includeAreaName⟩, by simp⟩,
    by simp⟩

theorem MedianRequest.plain_written {q : MedianRequest} (hq : (Request.median q).Plain) :
    q.written.Plain := by
  have hline := hq.one_line
  simp only [Request.texts, Request.areaFilter, Request.listedTexts, Request.freeTexts,
    List.forall_mem_append, List.forall_mem_cons, Option.mem_toList] at hline
  obtain ⟨⟨hfilter, -⟩, hname, ⟨⟨⟨hby1, hby2⟩, hbreak⟩, huniverse⟩, htitle⟩ := hline
  have hbreakdowns : ∀ b ∈ q.breakdowns, OneLine b := by
    intro b hb
    obtain ⟨value, hvalue, hb⟩ := List.mem_filterMap.mp hb
    rcases List.mem_pair.mp hvalue with rfl | rfl
    · exact oneLine_present hby1 b hb
    · exact oneLine_present hby2 b hb
  refine ⟨?_, hq.area_filter, .single q.variableName⟩
  simp only [Document.texts, written, List.forall_mem_append, Option.mem_toList,
    List.flatMap_nil, Subject.texts, List.forall_mem_singleton]
  exact ⟨⟨⟨⟨⟨⟨hfilter, oneLine_present huniverse⟩, by simp⟩, oneLine_present htitle⟩, hname⟩,
    hbreakdowns⟩, oneLine_present hbreak⟩

theorem Request.plain_document {r : Request} (hr : r.Plain) {d : Document}
    (h : r.document = .ok d) : d.Plain := by
  cases r with
  | areaList q =>
    obtain ⟨-, hne, rfl⟩ := AreaListRequest.document_eq_ok_iff.mp h
    exact AreaListRequest.plain_written hr hne
  | counter q =>
    obtain ⟨-, -, rfl⟩ := CounterRequest.document_eq_ok_iff.mp h
    exact CounterRequest.plain_written hr
  | median q =>
    obtain ⟨-, rfl⟩ := MedianRequest.document_eq_ok_iff.mp h
    exact MedianRequest.plain_written hr
  | reserved r => cases h

theorem Request.text_eq_ok_iff {r : Request} {t : String} :
    r.text = .ok t ↔ ∃ d, r.document = .ok d ∧ d.render = t :=
  map_eq_ok_iff

/-- What a text of a plain request says is its normal form. -/
theorem Request.request_of_text {r : Request} (hr : r.Plain) {t : String} (h : r.text = .ok t) :
    (Document.ofText? t).map Document.request = some r.normal := by
  obtain ⟨d, hd, rfl⟩ := text_eq_ok_iff.mp h
  rw [Document.ofText?_render (plain_document hr hd), Option.map_some, request_document hd]

theorem Request.text_normal {r : Request} {t : String} (h : r.text = .ok t) :
    r.normal.text = .ok t := by
  obtain ⟨d, hd, hrender⟩ := text_eq_ok_iff.mp h
  exact text_eq_ok_iff.mpr ⟨d, document_normal hd, hrender⟩

/-- The text of a query and the normal form of the request determine one another. -/
theorem query_text_determines_normal_form {r s : Request} (hr : r.Plain) (hs : s.Plain)
    {t u : String} (ht : r.text = .ok t) (hu : s.text = .ok u) :
    t = u ↔ r.kind = s.kind ∧ r.normal = s.normal := by
  constructor
  · intro htexts
    subst htexts
    have hnormal : r.normal = s.normal := by
      apply Option.some.inj
      rw [← Request.request_of_text hr ht, Request.request_of_text hs hu]
    refine ⟨?_, hnormal⟩
    rw [← r.kind_normal, hnormal, s.kind_normal]
  · rintro ⟨-, hnormal⟩
    have hsame : r.normal.text = .ok u := by rw [hnormal, Request.text_normal hu]
    exact Except.ok.inj ((Request.text_normal ht).symm.trans hsame)

/-- An area list that asks for the names of the areas by the switch, with an empty title. -/
def switchedNames : Request :=
  .areaList {
    areaLevel := "PROV"
    identifiers := ["PERSONA.P02"]
    areaFilter := some ⟨"PROV", ["2", "6"], by decide⟩
    title := some ""
    includeAreaName := true }

/-- The same list with the variable that holds the names. -/
def listedNames : Request :=
  .areaList {
    areaLevel := "PROV"
    identifiers := ["PROV.NOMPROV", "PERSONA.P02"]
    areaFilter := some ⟨"PROV", ["2", "6"], by decide⟩ }

theorem plain_switchedNames : switchedNames.Plain where
  one_line := by decide
  area_filter := by
    intro f hf
    obtain rfl : _ = f := Option.some.inj hf
    exact ⟨by decide, by decide⟩
  listed := by decide

theorem plain_listedNames : listedNames.Plain where
  one_line := by decide
  area_filter := plain_switchedNames.area_filter
  listed := by decide

def namedProvinces : String :=
  "RUNDEF Job\n    SELECTION INLINE,\n     PROV 2, 6\n\n" ++
    "TABLE TABLE1\n    AS AREALIST\n    OF PROV, PROV.NOMPROV, PERSONA.P02"

theorem switched_names_are_listed_names :
    switchedNames.text = .ok namedProvinces ∧ listedNames.text = .ok namedProvinces ∧
      switchedNames.kind = listedNames.kind ∧ switchedNames.normal = listedNames.normal := by
  have hswitched : switchedNames.text = .ok namedProvinces := by decide
  have hlisted : listedNames.text = .ok namedProvinces := by decide
  exact ⟨hswitched, hlisted, (query_text_determines_normal_form plain_switchedNames
    plain_listedNames hswitched hlisted).mp rfl⟩

end Census.Query
