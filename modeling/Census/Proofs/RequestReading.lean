import Mathlib
import Census.Format
import Census.Proofs.JsonReading
import Census.Proofs.RequestShapes

/-!
Which records are read as requests, and as which. The reader parts a record at its kind and hands
the other entries to the struct of that kind; together they take just the records that have a kind,
no key twice, and the fields of the kind in their shapes.
-/

namespace Census.Query

open Reader (Struct)

/-! ### The fields of each kind -/

inductive FieldShape where
  | text
  | optionalText
  | flag
  | oneOrMany
  | optionalFilter
  deriving DecidableEq, Repr

/-- The value has the shape. -/
def FieldShape.Fits : FieldShape → Outline → Prop
  | text, o => ∃ v, IsText o v
  | optionalText, o => ∃ v, IsOptional IsText o v
  | flag, o => ∃ v, IsFlag o v
  | oneOrMany, o => ∃ v, IsVariables o v
  | optionalFilter, o => ∃ v, IsOptional IsFilter o v

/-- What a request may or must say under one key. -/
structure FieldForm where
  name : String
  required : Bool
  shape : FieldShape
  deriving DecidableEq, Repr

def Kind.forms : Kind → List FieldForm
  | areaList => [
      ⟨"area_level", true, .text⟩, ⟨"variables", true, .oneOrMany⟩,
      ⟨"area_filter", false, .optionalFilter⟩, ⟨"universe_filter", false, .optionalText⟩,
      ⟨"title", false, .optionalText⟩, ⟨"include_area_name", false, .flag⟩]
  | counter => [
      ⟨"area_level", true, .text⟩, ⟨"counted_entity", true, .text⟩,
      ⟨"area_filter", false, .optionalFilter⟩, ⟨"universe_filter", false, .optionalText⟩,
      ⟨"title", false, .optionalText⟩, ⟨"include_area_name", false, .flag⟩,
      ⟨"include_total", false, .flag⟩]
  | median => [
      ⟨"variable", true, .text⟩, ⟨"by_var1", false, .optionalText⟩,
      ⟨"by_var2", false, .optionalText⟩, ⟨"include_full_names", false, .flag⟩,
      ⟨"area_break", false, .optionalText⟩, ⟨"area_filter", false, .optionalFilter⟩,
      ⟨"universe_filter", false, .optionalText⟩, ⟨"title", false, .optionalText⟩]
  | reserved _ => []

/-- The records that a request of this kind is read from. -/
structure Kind.Accepts (k : Kind) (entries : List (Option String × Outline)) : Prop where
  distinct : (entries.map Prod.fst).Nodup
  known : ∀ e ∈ entries, e.1 = some "kind" ∨
    ∃ form ∈ k.forms, e.1 = some form.name ∧ form.shape.Fits e.2
  complete : ∀ form ∈ k.forms, form.required = true → some form.name ∈ entries.map Prod.fst

/-- What is written under the key, or the default where the key is missing. -/
structure Given {β : Type} (entries : List (Option String × Outline)) (name : String)
    (shape : Outline → β → Prop) (default value : β) : Prop where
  present : ∀ o, (some name, o) ∈ entries → shape o value
  missing : some name ∉ entries.map Prod.fst → value = default

structure AreaListRequest.ReadFrom (entries : List (Option String × Outline))
    (q : AreaListRequest) : Prop where
  area_level : Given entries "area_level" IsText "" q.areaLevel
  identifiers : Given entries "variables" IsVariables [] q.identifiers
  area_filter : Given entries "area_filter" (IsOptional IsFilter) none q.areaFilter
  universe_filter : Given entries "universe_filter" (IsOptional IsText) none q.universeFilter
  title : Given entries "title" (IsOptional IsText) none q.title
  include_area_name : Given entries "include_area_name" IsFlag false q.includeAreaName

structure CounterRequest.ReadFrom (entries : List (Option String × Outline))
    (q : CounterRequest) : Prop where
  area_level : Given entries "area_level" IsText "" q.areaLevel
  counted_entity : Given entries "counted_entity" IsText "" q.countedEntity
  area_filter : Given entries "area_filter" (IsOptional IsFilter) none q.areaFilter
  universe_filter : Given entries "universe_filter" (IsOptional IsText) none q.universeFilter
  title : Given entries "title" (IsOptional IsText) none q.title
  include_area_name : Given entries "include_area_name" IsFlag false q.includeAreaName
  include_total : Given entries "include_total" IsFlag false q.includeTotal

structure MedianRequest.ReadFrom (entries : List (Option String × Outline))
    (q : MedianRequest) : Prop where
  variable_name : Given entries "variable" IsText "" q.variableName
  by_var1 : Given entries "by_var1" (IsOptional IsText) none q.byVar1
  by_var2 : Given entries "by_var2" (IsOptional IsText) none q.byVar2
  include_full_names : Given entries "include_full_names" IsFlag false q.includeFullNames
  area_break : Given entries "area_break" (IsOptional IsText) none q.areaBreak
  area_filter : Given entries "area_filter" (IsOptional IsFilter) none q.areaFilter
  universe_filter : Given entries "universe_filter" (IsOptional IsText) none q.universeFilter
  title : Given entries "title" (IsOptional IsText) none q.title

def Request.ReadFrom (entries : List (Option String × Outline)) : Request → Prop
  | areaList q => q.ReadFrom entries
  | counter q => q.ReadFrom entries
  | median q => q.ReadFrom entries
  | reserved _ => True

/-! ### Structs and forms -/

/-- The field asks for what the form says. -/
structure FieldForm.Describes {α : Type} (form : FieldForm) (f : Reader.Field α) : Prop where
  name : f.name = form.name
  required : f.required = form.required
  takes : ∀ o, f.Takes o ↔ form.shape.Fits o

theorem readText_shape (o : Outline) (v : String) : Reader.text o = .ok v ↔ IsText o v :=
  text_eq_ok_iff

theorem readFlag_shape (o : Outline) (v : Bool) : Reader.flag o = .ok v ↔ IsFlag o v :=
  flag_eq_ok_iff

theorem readVariables_shape (o : Outline) (v : List String) :
    readVariables o = .ok v ↔ IsVariables o v :=
  readVariables_eq_ok_iff

theorem readOptionalText_shape (o : Outline) (v : Option String) :
    Reader.optional Reader.text o = .ok v ↔ IsOptional IsText o v :=
  optional_eq_ok_iff readText_shape (fun _ h => by cases h)

theorem readOptionalFilter_shape (o : Outline) (v : Option AreaFilter) :
    Reader.optional readFilter o = .ok v ↔ IsOptional IsFilter o v :=
  optional_eq_ok_iff (fun _ _ => readFilter_eq_ok_iff) (fun _ h => by cases h)

theorem describes_make {α β : Type} {name : String} {required : Bool} {read : Reader β}
    {set : β → α → α} {value : Outline → β → Prop} {shape : FieldShape}
    (hread : ∀ o v, read o = .ok v ↔ value o v) (hshape : shape.Fits = fun o => ∃ v, value o v)
    (a : α) : FieldForm.Describes ⟨name, required, shape⟩ (.make name required read set) where
  name := rfl
  required := rfl
  takes o := by simp only [Reader.Field.make_takes_iff a, hread, hshape]

theorem AreaListRequest.forms_describe :
    List.Forall₂ FieldForm.Describes Kind.areaList.forms struct.fields :=
  .cons (describes_make readText_shape rfl struct.initial) <|
  .cons (describes_make readVariables_shape rfl struct.initial) <|
  .cons (describes_make readOptionalFilter_shape rfl struct.initial) <|
  .cons (describes_make readOptionalText_shape rfl struct.initial) <|
  .cons (describes_make readOptionalText_shape rfl struct.initial) <|
  .cons (describes_make readFlag_shape rfl struct.initial) .nil

theorem CounterRequest.forms_describe :
    List.Forall₂ FieldForm.Describes Kind.counter.forms struct.fields :=
  .cons (describes_make readText_shape rfl struct.initial) <|
  .cons (describes_make readText_shape rfl struct.initial) <|
  .cons (describes_make readOptionalFilter_shape rfl struct.initial) <|
  .cons (describes_make readOptionalText_shape rfl struct.initial) <|
  .cons (describes_make readOptionalText_shape rfl struct.initial) <|
  .cons (describes_make readFlag_shape rfl struct.initial) <|
  .cons (describes_make readFlag_shape rfl struct.initial) .nil

theorem MedianRequest.forms_describe :
    List.Forall₂ FieldForm.Describes Kind.median.forms struct.fields :=
  .cons (describes_make readText_shape rfl struct.initial) <|
  .cons (describes_make readOptionalText_shape rfl struct.initial) <|
  .cons (describes_make readOptionalText_shape rfl struct.initial) <|
  .cons (describes_make readFlag_shape rfl struct.initial) <|
  .cons (describes_make readOptionalText_shape rfl struct.initial) <|
  .cons (describes_make readOptionalFilter_shape rfl struct.initial) <|
  .cons (describes_make readOptionalText_shape rfl struct.initial) <|
  .cons (describes_make readOptionalText_shape rfl struct.initial) .nil

theorem AreaListRequest.regular : struct.Regular where
  strict := rfl
  names := by decide
  steady := by simp [struct, Reader.Field.steady_make]

theorem CounterRequest.regular : struct.Regular where
  strict := rfl
  names := by decide
  steady := by simp [struct, Reader.Field.steady_make]

theorem MedianRequest.regular : struct.Regular where
  strict := rfl
  names := by decide
  steady := by simp [struct, Reader.Field.steady_make]

/-- In terms of forms: the records that a struct takes. -/
theorem readRecord_succeeds_iff_forms {α : Type} {s : Struct α} (hs : s.Regular)
    {forms : List FieldForm} (hforms : List.Forall₂ FieldForm.Describes forms s.fields)
    (entries : List (Option String × Outline)) :
    (∃ q, s.readRecord entries = .ok q) ↔
      (entries.map Prod.fst).Nodup ∧
        (∀ e ∈ entries, ∃ form ∈ forms, e.1 = some form.name ∧ form.shape.Fits e.2) ∧
        ∀ form ∈ forms, form.required = true → some form.name ∈ entries.map Prod.fst := by
  rw [Struct.readRecord_succeeds_iff hs]
  simp only [Struct.Admits]
  generalize s.fields = fields at hforms ⊢
  have hadmits (e : Option String × Outline) :
      (∃ f ∈ fields, e.1 = some f.name ∧ f.Takes e.2) ↔
        ∃ form ∈ forms, e.1 = some form.name ∧ form.shape.Fits e.2 := by
    induction hforms with
    | nil => simp
    | cons h _ ih => simp only [List.exists_mem_cons_iff, ih, h.name, h.takes]
  have hrequired : (∀ f ∈ fields, f.required = true → some f.name ∈ entries.map Prod.fst) ↔
      ∀ form ∈ forms, form.required = true → some form.name ∈ entries.map Prod.fst := by
    clear hadmits
    induction hforms with
    | nil => simp
    | cons h _ ih => simp only [List.forall_mem_cons, ih, h.name, h.required]
  simp only [hadmits, hrequired]

theorem given_of_readRecord {α β : Type} {s : Struct α} (hs : s.Regular) {name : String}
    {read : Reader β} (get : α → β) {shape : Outline → β → Prop}
    (hread : ∀ o v, read o = .ok v ↔ shape o v) (hk : s.Keeps name read get)
    {entries : List (Option String × Outline)} {q : α} (h : s.readRecord entries = .ok q) :
    Given entries name shape (get s.initial) (get q) where
  present o ho := (hread o (get q)).mp (hk.get_of_mem hs h ho)
  missing habsent := hk.get_of_absent hs h habsent

theorem AreaListRequest.readFrom_of_readRecord {entries : List (Option String × Outline)}
    {q : AreaListRequest} (h : struct.readRecord entries = .ok q) : q.ReadFrom entries where
  area_level :=
    given_of_readRecord regular areaLevel readText_shape (by simp [Struct.Keeps, struct]) h
  identifiers :=
    given_of_readRecord regular AreaListRequest.identifiers readVariables_shape
      (by simp [Struct.Keeps, struct]) h
  area_filter :=
    given_of_readRecord regular areaFilter readOptionalFilter_shape
      (by simp [Struct.Keeps, struct]) h
  universe_filter :=
    given_of_readRecord regular universeFilter readOptionalText_shape
      (by simp [Struct.Keeps, struct]) h
  title :=
    given_of_readRecord regular AreaListRequest.title readOptionalText_shape
      (by simp [Struct.Keeps, struct]) h
  include_area_name :=
    given_of_readRecord regular includeAreaName readFlag_shape (by simp [Struct.Keeps, struct]) h

theorem CounterRequest.readFrom_of_readRecord {entries : List (Option String × Outline)}
    {q : CounterRequest} (h : struct.readRecord entries = .ok q) : q.ReadFrom entries where
  area_level :=
    given_of_readRecord regular areaLevel readText_shape (by simp [Struct.Keeps, struct]) h
  counted_entity :=
    given_of_readRecord regular countedEntity readText_shape (by simp [Struct.Keeps, struct]) h
  area_filter :=
    given_of_readRecord regular areaFilter readOptionalFilter_shape
      (by simp [Struct.Keeps, struct]) h
  universe_filter :=
    given_of_readRecord regular universeFilter readOptionalText_shape
      (by simp [Struct.Keeps, struct]) h
  title :=
    given_of_readRecord regular CounterRequest.title readOptionalText_shape
      (by simp [Struct.Keeps, struct]) h
  include_area_name :=
    given_of_readRecord regular includeAreaName readFlag_shape (by simp [Struct.Keeps, struct]) h
  include_total :=
    given_of_readRecord regular includeTotal readFlag_shape (by simp [Struct.Keeps, struct]) h

theorem MedianRequest.readFrom_of_readRecord {entries : List (Option String × Outline)}
    {q : MedianRequest} (h : struct.readRecord entries = .ok q) : q.ReadFrom entries where
  variable_name :=
    given_of_readRecord regular variableName readText_shape (by simp [Struct.Keeps, struct]) h
  by_var1 :=
    given_of_readRecord regular byVar1 readOptionalText_shape (by simp [Struct.Keeps, struct]) h
  by_var2 :=
    given_of_readRecord regular byVar2 readOptionalText_shape (by simp [Struct.Keeps, struct]) h
  include_full_names :=
    given_of_readRecord regular includeFullNames readFlag_shape (by simp [Struct.Keeps, struct]) h
  area_break :=
    given_of_readRecord regular areaBreak readOptionalText_shape (by simp [Struct.Keeps, struct]) h
  area_filter :=
    given_of_readRecord regular areaFilter readOptionalFilter_shape
      (by simp [Struct.Keeps, struct]) h
  universe_filter :=
    given_of_readRecord regular universeFilter readOptionalText_shape
      (by simp [Struct.Keeps, struct]) h
  title :=
    given_of_readRecord regular MedianRequest.title readOptionalText_shape
      (by simp [Struct.Keeps, struct]) h

/-! ### The kind of a record -/

/-- An entry that is held until the kind is known. -/
def Held (e : Option String × Outline) : Prop :=
  ∃ key, e.1 = some key ∧ key ≠ "kind" ∧ e.2.isReadable = true

theorem Held.key_ne_kind {e : Option String × Outline} (h : Held e) : e.1 ≠ some "kind" := by
  obtain ⟨key, hkey, hne, -⟩ := h
  rw [hkey]
  exact fun heq => hne (Option.some.inj heq)

theorem readTag_name (k : Kind) : readTag (.text k.name) = .ok k := by
  rcases k with _ | _ | _ | r
  · decide
  · decide
  · decide
  · cases r <;> decide

/-- What taking one entry off a tagged record can do. -/
theorem readTagged_cons_eq_ok_iff {kind : Option Kind} {kept later : List (Option String × Outline)}
    {e : Option String × Outline} {r : Option Kind × List (Option String × Outline)} :
    readTagged kind kept (e :: later) = .ok r ↔
      (e.1 = some "kind" ∧ kind = none ∧
        ∃ k, readTag e.2 = .ok k ∧ readTagged (some k) kept later = .ok r) ∨
      (Held e ∧ readTagged kind (kept ++ [e]) later = .ok r) := by
  obtain ⟨key?, o⟩ := e
  cases key? with
  | none => simp [readTagged, Held]
  | some key =>
    by_cases hkey : key = "kind"
    · subst hkey
      have hnot : ¬ Held (some "kind", o) := fun h => h.key_ne_kind rfl
      cases kind with
      | some k => simp [readTagged, hnot]
      | none => simp [readTagged, hnot, bind_eq_ok_iff]
    · have hheld : Held (some key, o) ↔ o.isReadable = true := by simp [Held, hkey]
      by_cases hreadable : o.isReadable = true
      · simp [readTagged, hkey, hreadable, hheld]
      · simp [readTagged, hkey, hreadable, hheld]

/-- Once the kind is known everything else is held. -/
theorem readTagged_some_eq_ok_iff {k : Kind} {kept entries : List (Option String × Outline)}
    {r : Option Kind × List (Option String × Outline)} :
    readTagged (some k) kept entries = .ok r ↔
      (∀ e ∈ entries, Held e) ∧ (some k, kept ++ entries) = r := by
  induction entries generalizing kept with
  | nil => simp [readTagged]
  | cons e later ih =>
    rw [readTagged_cons_eq_ok_iff, ih, List.forall_mem_cons]
    simp [and_assoc]

theorem readTagged_none_eq_ok_iff {k : Kind} {kept entries rest : List (Option String × Outline)} :
    readTagged none kept entries = .ok (some k, rest) ↔
      ∃ before tag after, entries = before ++ (some "kind", tag) :: after ∧ readTag tag = .ok k ∧
        (∀ e ∈ before ++ after, Held e) ∧ kept ++ (before ++ after) = rest := by
  -- On the entries: up to the tag they are held one by one, behind it all at once.
  induction entries generalizing kept with
  | nil => simp [readTagged]
  | cons e later ih =>
    rw [readTagged_cons_eq_ok_iff]
    constructor
    · rintro (⟨hkey, -, k', htag, hlater⟩ | ⟨hheld, hlater⟩)
      · obtain ⟨hall, hpair⟩ := readTagged_some_eq_ok_iff.mp hlater
        obtain ⟨hk, hrest⟩ := Prod.mk.inj hpair
        obtain rfl : k' = k := Option.some.inj hk
        exact ⟨[], e.2, later, by rw [← hkey]; rfl, htag, hall, hrest⟩
      · obtain ⟨before, tag, after, rfl, htag, hall, hrest⟩ := ih.mp hlater
        refine ⟨e :: before, tag, after, rfl, htag, ?_, ?_⟩
        · exact List.forall_mem_cons.mpr ⟨hheld, hall⟩
        · simpa using hrest
    · rintro ⟨before, tag, after, hentries, htag, hall, hrest⟩
      cases before with
      | nil =>
        obtain ⟨rfl, rfl⟩ := List.cons.inj hentries
        rw [List.nil_append] at hrest
        exact .inl ⟨rfl, rfl, k, htag, readTagged_some_eq_ok_iff.mpr ⟨hall, by rw [hrest]⟩⟩
      | cons first before =>
        obtain ⟨rfl, rfl⟩ := List.cons.inj hentries
        obtain ⟨hheld, hall⟩ := List.forall_mem_cons.mp hall
        refine .inr ⟨hheld, ih.mpr ⟨before, tag, after, rfl, htag, hall, ?_⟩⟩
        simpa using hrest

/-- A record is read by the reader of its kind, from what it holds besides the kind. -/
theorem readRequest_record_eq_ok_iff {entries : List (Option String × Outline)} {r : Request} :
    readRequest (.record entries) = .ok r ↔
      ∃ before tag k after, entries = before ++ (some "kind", tag) :: after ∧
        readTag tag = .ok k ∧ (∀ e ∈ before ++ after, Held e) ∧
        readContent k (.record (before ++ after)) = .ok r := by
  rw [readRequest, bind_eq_ok_iff]
  constructor
  · rintro ⟨⟨kind, rest⟩, htagged, hcontent⟩
    cases kind with
    | none => cases hcontent
    | some k =>
      obtain ⟨before, tag, after, hentries, htag, hall, rfl⟩ :=
        readTagged_none_eq_ok_iff.mp htagged
      exact ⟨before, tag, k, after, hentries, htag, hall, hcontent⟩
  · rintro ⟨before, tag, k, after, hentries, htag, hall, hcontent⟩
    exact ⟨_, readTagged_none_eq_ok_iff.mpr ⟨before, tag, after, hentries, htag, hall, rfl⟩,
      hcontent⟩

/-! ### Which records are requests -/

theorem map_read_record_eq_ok_iff {α : Type} {s : Struct α} {wrap : α → Request}
    {entries : List (Option String × Outline)} {r : Request} :
    (s.read .held (.record entries)).map wrap = .ok r ↔
      ∃ q, s.readRecord entries = .ok q ∧ wrap q = r :=
  map_eq_ok_iff

theorem readContent_succeeds_iff {k : Kind} (hk : k.isSupported = true)
    (entries : List (Option String × Outline)) :
    (∃ r, readContent k (.record entries) = .ok r) ↔
      (entries.map Prod.fst).Nodup ∧
        (∀ e ∈ entries, ∃ form ∈ k.forms, e.1 = some form.name ∧ form.shape.Fits e.2) ∧
        ∀ form ∈ k.forms, form.required = true → some form.name ∈ entries.map Prod.fst := by
  have hmap {α : Type} {s : Struct α} {wrap : α → Request} :
      (∃ r, (s.read .held (.record entries)).map wrap = .ok r) ↔
        ∃ q, s.readRecord entries = .ok q := by
    simp [map_read_record_eq_ok_iff]
  cases k with
  | areaList =>
    exact hmap.trans (readRecord_succeeds_iff_forms AreaListRequest.regular
      AreaListRequest.forms_describe entries)
  | counter =>
    exact hmap.trans (readRecord_succeeds_iff_forms CounterRequest.regular
      CounterRequest.forms_describe entries)
  | median =>
    exact hmap.trans (readRecord_succeeds_iff_forms MedianRequest.regular
      MedianRequest.forms_describe entries)
  | reserved r => cases hk

theorem readFrom_of_readContent {k : Kind} {entries : List (Option String × Outline)} {r : Request}
    (h : readContent k (.record entries) = .ok r) : r.kind = k ∧ r.ReadFrom entries := by
  cases k with
  | areaList =>
    obtain ⟨q, hq, rfl⟩ := map_read_record_eq_ok_iff.mp h
    exact ⟨rfl, AreaListRequest.readFrom_of_readRecord hq⟩
  | counter =>
    obtain ⟨q, hq, rfl⟩ := map_read_record_eq_ok_iff.mp h
    exact ⟨rfl, CounterRequest.readFrom_of_readRecord hq⟩
  | median =>
    obtain ⟨q, hq, rfl⟩ := map_read_record_eq_ok_iff.mp h
    exact ⟨rfl, MedianRequest.readFrom_of_readRecord hq⟩
  | reserved held =>
    obtain rfl : .reserved held = r := Except.ok.inj h
    exact ⟨rfl, trivial⟩

theorem isReadable_of_isCodes {o : Outline} {codes : AreaCodes} (h : IsCodes o codes) :
    o.isReadable = true := by
  cases h with
  | one code => rfl
  | many codes => exact isReadable_list_text codes

theorem isReadable_of_isFilter {o : Outline} {f : AreaFilter} (h : IsFilter o f) :
    o.isReadable = true := by
  obtain ⟨hgiven, -, -, -⟩ := h
  rw [Outline.isReadable]
  induction hgiven with
  | nil => rfl
  | cons he _ ih =>
    rw [Outline.entriesReadable, he.1, isReadable_of_isCodes he.2, ih]
    rfl

theorem FieldShape.Fits.isReadable {shape : FieldShape} {o : Outline} (h : shape.Fits o) :
    o.isReadable = true := by
  cases shape with
  | text =>
    obtain ⟨_, ⟨⟩⟩ := h
    rfl
  | optionalText =>
    obtain ⟨_, _ | ⟨⟨⟩⟩⟩ := h <;> rfl
  | flag =>
    obtain ⟨_, ⟨⟩⟩ := h
    rfl
  | oneOrMany =>
    obtain ⟨_, ⟨hcodes⟩⟩ := h
    exact isReadable_of_isCodes hcodes
  | optionalFilter =>
    obtain ⟨_, _ | hfilter⟩ := h
    · rfl
    · exact isReadable_of_isFilter hfilter

theorem Kind.name_ne_kind (k : Kind) : ∀ form ∈ k.forms, form.name ≠ "kind" := by
  cases k with
  | areaList => decide
  | counter => decide
  | median => decide
  | reserved r => simp [forms]

section WithKind

variable {before after : List (Option String × Outline)} {tag : Outline}

theorem mem_keys_withKind_iff {name : String} (h : name ≠ "kind") :
    some name ∈ (before ++ (some "kind", tag) :: after).map Prod.fst ↔
      some name ∈ (before ++ after).map Prod.fst := by
  simp [h]

/-- The entry that names the kind is no field, so the other entries answer for the fields. -/
theorem Kind.accepts_withKind_iff {k : Kind} :
    k.Accepts (before ++ (some "kind", tag) :: after) ↔
      (∀ e ∈ before ++ after, e.1 ≠ some "kind") ∧ ((before ++ after).map Prod.fst).Nodup ∧
        (∀ e ∈ before ++ after, ∃ form ∈ k.forms, e.1 = some form.name ∧ form.shape.Fits e.2) ∧
        ∀ form ∈ k.forms, form.required = true →
          some form.name ∈ (before ++ after).map Prod.fst := by
  have hnodup : ((before ++ (some "kind", tag) :: after).map Prod.fst).Nodup ↔
      (∀ e ∈ before ++ after, e.1 ≠ some "kind") ∧ ((before ++ after).map Prod.fst).Nodup := by
    rw [List.map_append, List.map_cons, List.nodup_middle, List.nodup_cons, ← List.map_append,
      List.mem_map]
    simp only [not_exists, not_and, ne_eq]
  have hcomplete : (∀ form ∈ k.forms, form.required = true →
        some form.name ∈ (before ++ (some "kind", tag) :: after).map Prod.fst) ↔
      ∀ form ∈ k.forms, form.required = true → some form.name ∈ (before ++ after).map Prod.fst :=
    forall₂_congr fun form hform => by rw [mem_keys_withKind_iff (k.name_ne_kind form hform)]
  constructor
  · rintro ⟨hdistinct, hknown, hrequired⟩
    obtain ⟨hkeys, hdistinct⟩ := hnodup.mp hdistinct
    refine ⟨hkeys, hdistinct, ?_, hcomplete.mp hrequired⟩
    intro e he
    have hmem : e ∈ before ++ (some "kind", tag) :: after := by
      rcases List.mem_append.mp he with he | he
      · exact List.mem_append_left _ he
      · exact List.mem_append_right _ (List.mem_cons_of_mem _ he)
    exact (hknown e hmem).resolve_left (hkeys e he)
  · rintro ⟨hkeys, hdistinct, hforms, hrequired⟩
    refine ⟨hnodup.mpr ⟨hkeys, hdistinct⟩, ?_, hcomplete.mpr hrequired⟩
    intro e he
    rcases List.mem_append.mp he with he | he
    · exact .inr (hforms e (List.mem_append_left _ he))
    · rcases List.mem_cons.mp he with rfl | he
      · exact .inl rfl
      · exact .inr (hforms e (List.mem_append_right _ he))

theorem Given.withKind {β : Type} {name : String} {shape : Outline → β → Prop} {default value : β}
    (h : Given (before ++ after) name shape default value) (hname : name ≠ "kind") :
    Given (before ++ (some "kind", tag) :: after) name shape default value where
  present o ho := by
    apply h.present o
    have hne : (some name, o) ≠ (some "kind", tag) := fun heq =>
      hname (Option.some.inj (Prod.mk.inj heq).1)
    rcases List.mem_append.mp ho with ho | ho
    · exact List.mem_append_left _ ho
    · exact List.mem_append_right _ ((List.mem_cons.mp ho).resolve_left hne)
  missing habsent := h.missing (fun hmem => habsent ((mem_keys_withKind_iff hname).mpr hmem))

theorem Request.ReadFrom.withKind {r : Request} (h : r.ReadFrom (before ++ after)) :
    r.ReadFrom (before ++ (some "kind", tag) :: after) := by
  cases r with
  | areaList q =>
    exact ⟨h.area_level.withKind (by decide), h.identifiers.withKind (by decide),
      h.area_filter.withKind (by decide), h.universe_filter.withKind (by decide),
      h.title.withKind (by decide), h.include_area_name.withKind (by decide)⟩
  | counter q =>
    exact ⟨h.area_level.withKind (by decide), h.counted_entity.withKind (by decide),
      h.area_filter.withKind (by decide), h.universe_filter.withKind (by decide),
      h.title.withKind (by decide), h.include_area_name.withKind (by decide),
      h.include_total.withKind (by decide)⟩
  | median q =>
    exact ⟨h.variable_name.withKind (by decide), h.by_var1.withKind (by decide),
      h.by_var2.withKind (by decide), h.include_full_names.withKind (by decide),
      h.area_break.withKind (by decide), h.area_filter.withKind (by decide),
      h.universe_filter.withKind (by decide), h.title.withKind (by decide)⟩
  | reserved r => trivial

end WithKind

/-- The kind that a record names is the only one it can be read as. -/
theorem readRequest_record_of_kind {k : Kind} {entries : List (Option String × Outline)}
    (hkind : (some "kind", Outline.text k.name) ∈ entries) {r : Request}
    (h : readRequest (.record entries) = .ok r) :
    ∃ before after, entries = before ++ (some "kind", .text k.name) :: after ∧
      (∀ e ∈ before ++ after, Held e) ∧ readContent k (.record (before ++ after)) = .ok r := by
  obtain ⟨before, tag, k', after, rfl, htag, hall, hcontent⟩ := readRequest_record_eq_ok_iff.mp h
  have htext : Outline.text k.name = tag := by
    rcases List.mem_append.mp hkind with hmem | hmem
    · exact absurd rfl (hall _ (List.mem_append_left _ hmem)).key_ne_kind
    · rcases List.mem_cons.mp hmem with heq | hmem
      · exact (Prod.mk.inj heq).2
      · exact absurd rfl (hall _ (List.mem_append_right _ hmem)).key_ne_kind
  subst htext
  obtain rfl : k = k' := Except.ok.inj ((readTag_name k).symm.trans htag)
  exact ⟨before, after, rfl, hall, hcontent⟩

theorem readRequest_record_succeeds_iff {k : Kind} (hk : k.isSupported = true)
    {entries : List (Option String × Outline)}
    (hkind : (some "kind", Outline.text k.name) ∈ entries) :
    (∃ r, readRequest (.record entries) = .ok r) ↔ k.Accepts entries := by
  constructor
  · rintro ⟨r, hr⟩
    obtain ⟨before, after, rfl, hall, hcontent⟩ := readRequest_record_of_kind hkind hr
    exact Kind.accepts_withKind_iff.mpr
      ⟨fun e he => (hall e he).key_ne_kind, (readContent_succeeds_iff hk _).mp ⟨r, hcontent⟩⟩
  · intro haccepts
    obtain ⟨before, after, rfl⟩ := List.append_of_mem hkind
    obtain ⟨hkeys, hfields⟩ := Kind.accepts_withKind_iff.mp haccepts
    obtain ⟨r, hr⟩ := (readContent_succeeds_iff hk _).mpr hfields
    have hall : ∀ e ∈ before ++ after, Held e := by
      intro e he
      obtain ⟨form, -, hname, hfits⟩ := hfields.2.1 e he
      exact ⟨form.name, hname, fun hform => hkeys e he (hform ▸ hname), hfits.isReadable⟩
    exact ⟨r, readRequest_record_eq_ok_iff.mpr
      ⟨before, _, k, after, rfl, readTag_name k, hall, hr⟩⟩

theorem json_read_of_ends {α : Type} (reader : Manner → Reader α) {s : String} {o : Outline}
    (h : Json.read s = ⟨o, true⟩) : Format.json.read reader s = reader .json o := by
  rw [Format.read, h]
  cases reader .json o <;> rfl

/-- The texts of records that are read as requests of a supported kind, and as which. -/
theorem request_reader_accepts_exactly {k : Kind} (hk : k.isSupported = true) {text : String}
    {entries : List (Option String × Outline)} (htext : Json.read text = ⟨.record entries, true⟩)
    (hkind : (some "kind", Outline.text k.name) ∈ entries) :
    ((∃ r, Format.json.read (fun _ => readRequest) text = .ok r) ↔ k.Accepts entries) ∧
      ∀ r, Format.json.read (fun _ => readRequest) text = .ok r →
        r.kind = k ∧ r.ReadFrom entries := by
  rw [json_read_of_ends _ htext]
  refine ⟨readRequest_record_succeeds_iff hk hkind, ?_⟩
  intro r hr
  obtain ⟨before, after, rfl, -, hcontent⟩ := readRequest_record_of_kind hkind hr
  obtain ⟨hrkind, hfrom⟩ := readFrom_of_readContent hcontent
  exact ⟨hrkind, hfrom.withKind⟩

/-- An area list whose kind stands behind its only variable, which is no list. -/
def bareVariable : List (String × Json) :=
  [("variables", .text "PERSONA.P02"), ("kind", .text "arealist"), ("area_level", .text "PROV")]

theorem bare_variable_is_list_of_one :
    Json.read (Json.record bareVariable).compact =
        ⟨.record (Json.entryOutlines bareVariable), true⟩ ∧
      Format.json.read (fun _ => readRequest) (Json.record bareVariable).compact =
        .ok (.areaList { areaLevel := "PROV", identifiers := ["PERSONA.P02"] }) ∧
      Kind.areaList.Accepts (Json.entryOutlines bareVariable) := by
  have htext : Json.read (Json.record bareVariable).compact =
      ⟨.record (Json.entryOutlines bareVariable), true⟩ := Json.read_compact (by decide)
  have hkind : (some "kind", Outline.text Kind.areaList.name) ∈
      Json.entryOutlines bareVariable := .tail _ (.head _)
  have hread : Format.json.read (fun _ => readRequest) (Json.record bareVariable).compact =
      .ok (.areaList { areaLevel := "PROV", identifiers := ["PERSONA.P02"] }) := by
    rw [json_read_of_ends _ htext]
    rfl
  exact ⟨htext, hread, (request_reader_accepts_exactly rfl htext hkind).1.mp ⟨_, hread⟩⟩

end Census.Query
