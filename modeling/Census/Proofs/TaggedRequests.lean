import Mathlib
import Census.Proofs.RequestRoundTrip

/-!
A request read by its kind and the same request read by the struct of the kind. The two agree in
whatever order the entries stand and wherever the kind stands among them, and also with the list
of the values alone, cut behind any field from which on nothing is set.
-/

namespace Census.Query

open Reader (Struct)

/-- The kinds that have a struct of their own, and how a value of it is a request. -/
inductive Kind.HasStruct : Kind → {α : Type} → Struct α → (α → Request) → Prop
  | areaList : HasStruct .areaList AreaListRequest.struct .areaList
  | counter : HasStruct .counter CounterRequest.struct .counter
  | median : HasStruct .median MedianRequest.struct .median

/-- Some of the entries, in any order; only defaults are left out. -/
structure Abridges (defaults entries entries' : List (Option String × Outline)) : Prop where
  kept : ∀ e ∈ entries', e ∈ entries
  left_out : ∀ e ∈ entries, e ∈ entries' ∨ e ∈ defaults

section Abridged

variable {defaults entries entries' : List (Option String × Outline)}

theorem Abridges.of_perm (h : entries.Perm entries') : Abridges defaults entries entries' where
  kept _ he := h.mem_iff.mpr he
  left_out _ he := .inl (h.mem_iff.mp he)

/-- A value that is left out is the default, and so is what is read in its place. -/
theorem Given.eq_of_abridges {β : Type} {read : Reader β} {shape : Outline → β → Prop}
    (hread : ∀ o v, read o = .ok v ↔ shape o v) {name : String} {default value value' : β}
    (hdefault : Given defaults name shape default default)
    (hvalue : Given entries name shape default value)
    (hvalue' : Given entries' name shape default value')
    (h : Abridges defaults entries entries') : value' = value := by
  have hunique {o : Outline} {v w : β} (hv : shape o v) (hw : shape o w) : v = w :=
    Except.ok.inj (((hread o v).mpr hv).symm.trans ((hread o w).mpr hw))
  by_cases hmem' : some name ∈ entries'.map Prod.fst
  · obtain ⟨⟨_, o⟩, ho, rfl⟩ := List.mem_map.mp hmem'
    exact hunique (hvalue'.present o ho) (hvalue.present o (h.kept _ ho))
  · rw [hvalue'.missing hmem']
    by_cases hmem : some name ∈ entries.map Prod.fst
    · obtain ⟨⟨_, o⟩, ho, rfl⟩ := List.mem_map.mp hmem
      have hleft : (some name, o) ∈ defaults :=
        (h.left_out _ ho).resolve_left fun ho' => hmem' (List.mem_map_of_mem ho')
      exact hunique (hdefault.present o hleft) (hvalue.present o ho)
    · exact (hvalue.missing hmem).symm

theorem AreaListRequest.eq_of_abridges {q q' : AreaListRequest} (hq : q.ReadFrom entries)
    (hq' : q'.ReadFrom entries')
    (h : Abridges (Json.entryOutlines struct.initial.entries) entries entries') : q' = q := by
  have hinitial := readFrom_of_readRecord (readRecord_entries struct.initial)
  refine (AreaListRequest.mk.injEq ..).mpr ⟨?_, ?_, ?_, ?_, ?_, ?_⟩
  · exact hinitial.area_level.eq_of_abridges readText_shape hq.area_level hq'.area_level h
  · exact hinitial.identifiers.eq_of_abridges readVariables_shape hq.identifiers hq'.identifiers h
  · exact hinitial.area_filter.eq_of_abridges readOptionalFilter_shape hq.area_filter
      hq'.area_filter h
  · exact hinitial.universe_filter.eq_of_abridges readOptionalText_shape hq.universe_filter
      hq'.universe_filter h
  · exact hinitial.title.eq_of_abridges readOptionalText_shape hq.title hq'.title h
  · exact hinitial.include_area_name.eq_of_abridges readFlag_shape hq.include_area_name
      hq'.include_area_name h

theorem CounterRequest.eq_of_abridges {q q' : CounterRequest} (hq : q.ReadFrom entries)
    (hq' : q'.ReadFrom entries')
    (h : Abridges (Json.entryOutlines struct.initial.entries) entries entries') : q' = q := by
  have hinitial := readFrom_of_readRecord (readRecord_entries struct.initial)
  refine (CounterRequest.mk.injEq ..).mpr ⟨?_, ?_, ?_, ?_, ?_, ?_, ?_⟩
  · exact hinitial.area_level.eq_of_abridges readText_shape hq.area_level hq'.area_level h
  · exact hinitial.counted_entity.eq_of_abridges readText_shape hq.counted_entity
      hq'.counted_entity h
  · exact hinitial.area_filter.eq_of_abridges readOptionalFilter_shape hq.area_filter
      hq'.area_filter h
  · exact hinitial.universe_filter.eq_of_abridges readOptionalText_shape hq.universe_filter
      hq'.universe_filter h
  · exact hinitial.title.eq_of_abridges readOptionalText_shape hq.title hq'.title h
  · exact hinitial.include_area_name.eq_of_abridges readFlag_shape hq.include_area_name
      hq'.include_area_name h
  · exact hinitial.include_total.eq_of_abridges readFlag_shape hq.include_total hq'.include_total h

theorem MedianRequest.eq_of_abridges {q q' : MedianRequest} (hq : q.ReadFrom entries)
    (hq' : q'.ReadFrom entries')
    (h : Abridges (Json.entryOutlines struct.initial.entries) entries entries') : q' = q := by
  have hinitial := readFrom_of_readRecord (readRecord_entries struct.initial)
  refine (MedianRequest.mk.injEq ..).mpr ⟨?_, ?_, ?_, ?_, ?_, ?_, ?_, ?_⟩
  · exact hinitial.variable_name.eq_of_abridges readText_shape hq.variable_name hq'.variable_name h
  · exact hinitial.by_var1.eq_of_abridges readOptionalText_shape hq.by_var1 hq'.by_var1 h
  · exact hinitial.by_var2.eq_of_abridges readOptionalText_shape hq.by_var2 hq'.by_var2 h
  · exact hinitial.include_full_names.eq_of_abridges readFlag_shape hq.include_full_names
      hq'.include_full_names h
  · exact hinitial.area_break.eq_of_abridges readOptionalText_shape hq.area_break hq'.area_break h
  · exact hinitial.area_filter.eq_of_abridges readOptionalFilter_shape hq.area_filter
      hq'.area_filter h
  · exact hinitial.universe_filter.eq_of_abridges readOptionalText_shape hq.universe_filter
      hq'.universe_filter h
  · exact hinitial.title.eq_of_abridges readOptionalText_shape hq.title hq'.title h

end Abridged

namespace Kind.HasStruct

variable {k : Kind} {α : Type} {s : Struct α} {wrap : α → Request}
  {entries entries' before after : List (Option String × Outline)} {q q' : α}

theorem isSupported (hs : k.HasStruct s wrap) : k.isSupported = true := by
  cases hs <;> rfl

theorem regular (hs : k.HasStruct s wrap) : s.Regular := by
  cases hs with
  | areaList => exact AreaListRequest.regular
  | counter => exact CounterRequest.regular
  | median => exact MedianRequest.regular

theorem fieldNames_eq (hs : k.HasStruct s wrap) (q : α) :
    (wrap q).entries.map Prod.fst = s.fieldNames := by
  cases hs <;> rfl

theorem readContent_eq_ok_iff (hs : k.HasStruct s wrap) {o : Outline} :
    readContent k o = .ok (wrap q) ↔ s.read .held o = .ok q := by
  have hmap {wrap : α → Request} (hinj : ∀ p, wrap p = wrap q → p = q) :
      (s.read .held o).map wrap = .ok (wrap q) ↔ s.read .held o = .ok q := by
    rw [map_eq_ok_iff]
    constructor
    · rintro ⟨p, hp, hwrap⟩
      rw [hp, hinj p hwrap]
    · intro hq
      exact ⟨q, hq, rfl⟩
  cases hs with
  | areaList => exact hmap fun _ => Request.areaList.inj
  | counter => exact hmap fun _ => Request.counter.inj
  | median => exact hmap fun _ => Request.median.inj

theorem readRecord_entries (hs : k.HasStruct s wrap) (q : α) :
    s.readRecord (Json.entryOutlines (wrap q).entries) = .ok q := by
  cases hs with
  | areaList => exact q.readRecord_entries
  | counter => exact q.readRecord_entries
  | median => exact q.readRecord_entries

theorem eq_of_abridges (hs : k.HasStruct s wrap) (hq : s.readRecord entries = .ok q)
    (hq' : s.readRecord entries' = .ok q')
    (h : Abridges (Json.entryOutlines (wrap s.initial).entries) entries entries') : q' = q := by
  cases hs with
  | areaList =>
    exact AreaListRequest.eq_of_abridges (AreaListRequest.readFrom_of_readRecord hq)
      (AreaListRequest.readFrom_of_readRecord hq') h
  | counter =>
    exact CounterRequest.eq_of_abridges (CounterRequest.readFrom_of_readRecord hq)
      (CounterRequest.readFrom_of_readRecord hq') h
  | median =>
    exact MedianRequest.eq_of_abridges (MedianRequest.readFrom_of_readRecord hq)
      (MedianRequest.readFrom_of_readRecord hq') h

/-- Leaving out defaults, but no field that is required, changes nothing. -/
theorem readRecord_of_abridges (hs : k.HasStruct s wrap) (hq : s.readRecord entries = .ok q)
    (h : Abridges (Json.entryOutlines (wrap s.initial).entries) entries entries')
    (hdistinct : (entries'.map Prod.fst).Nodup)
    (hrequired : ∀ f ∈ s.fields, f.required = true → some f.name ∈ entries'.map Prod.fst) :
    s.readRecord entries' = .ok q := by
  obtain ⟨-, hadmits, -⟩ := (Struct.readRecord_succeeds_iff hs.regular entries).mp ⟨q, hq⟩
  obtain ⟨q', hq'⟩ := (Struct.readRecord_succeeds_iff hs.regular entries').mpr
    ⟨hdistinct, fun e he => hadmits e (h.kept e he), hrequired⟩
  rw [hq', hs.eq_of_abridges hq hq' h]

theorem readRecord_of_perm (hs : k.HasStruct s wrap) (h : entries.Perm entries')
    (hq : s.readRecord entries = .ok q) : s.readRecord entries' = .ok q := by
  obtain ⟨hdistinct, -, hrequired⟩ :=
    (Struct.readRecord_succeeds_iff hs.regular entries).mp ⟨q, hq⟩
  have hkeys : (entries.map Prod.fst).Perm (entries'.map Prod.fst) := h.map _
  apply hs.readRecord_of_abridges hq (.of_perm h) (hkeys.nodup_iff.mp hdistinct)
  intro f hf hrequires
  exact hkeys.mem_iff.mp (hrequired f hf hrequires)

theorem readRequest_record_eq_ok_iff (hs : k.HasStruct s wrap)
    (huntagged : some "kind" ∉ (before ++ after).map Prod.fst) :
    readRequest (.record (before ++ (some "kind", .text k.name) :: after)) = .ok (wrap q) ↔
      s.readRecord (before ++ after) = .ok q := by
  have hcontent : readContent k (.record (before ++ after)) = .ok (wrap q) ↔
      s.readRecord (before ++ after) = .ok q := hs.readContent_eq_ok_iff
  rw [← hcontent]
  constructor
  · intro h
    have hmem : (some "kind", Outline.text k.name) ∈
        before ++ (some "kind", .text k.name) :: after := by simp
    obtain ⟨before', after', hparts, hheld, hread⟩ := readRequest_record_of_kind hmem h
    have hbefore : (some "kind", Outline.text k.name) ∉ before := fun hmem =>
      huntagged (List.mem_map_of_mem (List.mem_append_left _ hmem))
    have hafter : (some "kind", Outline.text k.name) ∉ after := fun hmem =>
      huntagged (List.mem_map_of_mem (List.mem_append_right _ hmem))
    obtain ⟨rfl, -, rfl⟩ := (List.append_cons_inj_of_notMem hbefore hafter).mp hparts
    exact hread
  · intro h
    obtain ⟨-, hforms, -⟩ := (readContent_succeeds_iff hs.isSupported _).mp ⟨_, h⟩
    have hheld : ∀ e ∈ before ++ after, Held e := by
      intro e he
      obtain ⟨form, hform, hname, hfits⟩ := hforms e he
      exact ⟨form.name, hname, k.name_ne_kind form hform, hfits.isReadable⟩
    exact Query.readRequest_record_eq_ok_iff.mpr
      ⟨before, _, k, after, rfl, readTag_name k, hheld, h⟩

theorem keys_take (hs : k.HasStruct s wrap) (q : α) (n : Nat) :
    (Json.entryOutlines ((wrap q).entries.take n)).map Prod.fst =
      (s.fieldNames.take n).map some := by
  rw [Json.entryOutlines_eq_map, List.map_map, ← hs.fieldNames_eq q, ← List.map_take, List.map_map]
  rfl

/-- Behind the last field that is required the fields that are not set may be left out. -/
theorem readRecord_entries_take (hs : k.HasStruct s wrap) {n : Nat}
    (hoptional : ∀ f ∈ s.fields.drop n, f.required = false)
    (hunset : (wrap q).entries.drop n = (wrap s.initial).entries.drop n) :
    s.readRecord (Json.entryOutlines ((wrap q).entries.take n)) = .ok q := by
  apply hs.readRecord_of_abridges (hs.readRecord_entries q)
  · simp only [Json.entryOutlines_eq_map]
    constructor
    · intro e he
      exact List.map_subset _ (List.take_subset n _) he
    -- What stands behind the cut stands there in the struct before any field is read.
    · intro e he
      rw [← List.take_append_drop n (wrap q).entries, List.map_append, hunset] at he
      exact (List.mem_append.mp he).imp_right fun hdrop =>
        List.map_subset _ (List.drop_subset n _) hdrop
  · rw [hs.keys_take]
    have hnames : (s.fieldNames.take n).Nodup := hs.regular.names.sublist (List.take_sublist n _)
    exact hnames.map (Option.some_injective _)
  · intro f hf hrequires
    rw [hs.keys_take, Struct.fieldNames, ← List.map_take]
    rw [← List.take_append_drop n s.fields] at hf
    rcases List.mem_append.mp hf with htaken | hdropped
    · exact List.mem_map_of_mem (List.mem_map_of_mem htaken)
    · rw [hoptional f hdropped] at hrequires
      cases hrequires

/-- The kind and the first values are read as the record of the first entries is. -/
theorem readRequest_list (hs : k.HasStruct s wrap) {n : Nat}
    (hoptional : ∀ f ∈ s.fields.drop n, f.required = false)
    (hunset : (wrap q).entries.drop n = (wrap s.initial).entries.drop n) :
    readRequest (.list (.text k.name :: ((wrap q).entries.take n).map fun e => e.2.outline)) =
      .ok (wrap q) := by
  have hlength : (wrap q).entries.length = s.fields.length := by
    simpa [Struct.fieldNames] using congrArg List.length (hs.fieldNames_eq q)
  have hcut := hs.readRecord_entries_take hoptional hunset
  rw [Json.entryOutlines_take, hs.fieldNames_eq] at hcut
  have hread : s.read .held (.list (((wrap q).entries.take n).map fun e => e.2.outline)) =
      .ok q := by
    apply Struct.readItems_of_readRecord hs.regular .held _ _ hcut
    · simp [hlength]
    · rw [List.length_map, List.length_take, hlength, ← List.drop_eq_drop_min]
      exact hoptional
  have hreadable :
      (Outline.list (((wrap q).entries.take n).map fun e => e.2.outline)).isReadable = true := by
    have hitems := Json.allReadable_outlines (((wrap q).entries.take n).map Prod.snd)
    rw [Json.outlines_eq_map, List.map_map] at hitems
    exact hitems
  rw [readRequest, readTag_name]
  simp only [hreadable]
  exact hs.readContent_eq_ok_iff.mpr hread

end Kind.HasStruct

/-- Parsing a record as the struct of a kind, parsing its entries in any order with the kind
anywhere among them as a request, and parsing the kind and the values alone as a request, cut
behind the last required field where only defaults are left out, all give one value. -/
theorem tagged_reader_agrees_with_direct {k : Kind} {α : Type} {s : Struct α} {wrap : α → Request}
    (hs : k.HasStruct s wrap) {text : String} {entries : List (Option String × Outline)}
    (htext : Json.read text = ⟨.record entries, true⟩)
    (huntagged : some "kind" ∉ entries.map Prod.fst) (q : α) :
    (∀ before after, (before ++ after).Perm entries →
      ∀ tagged, Json.read tagged =
          ⟨.record (before ++ (some "kind", .text k.name) :: after), true⟩ →
        (Format.json.read s.read text = .ok q ↔
          Format.json.read (fun _ => readRequest) tagged = .ok (wrap q))) ∧
      ∀ n, (∀ f ∈ s.fields.drop n, f.required = false) →
        (wrap q).entries.drop n = (wrap s.initial).entries.drop n →
        ∀ array, Json.read array =
            ⟨.list (.text k.name :: ((wrap q).entries.take n).map fun e => e.2.outline), true⟩ →
          Format.json.read (fun _ => readRequest) array = .ok (wrap q) := by
  have hdirect : Format.json.read s.read text = .ok q ↔ s.readRecord entries = .ok q := by
    rw [json_read_of_ends _ htext]
    rfl
  constructor
  · intro before after hperm tagged htagged
    have hplain : some "kind" ∉ (before ++ after).map Prod.fst := fun hmem =>
      huntagged ((hperm.map _).mem_iff.mp hmem)
    rw [hdirect, json_read_of_ends _ htagged, hs.readRequest_record_eq_ok_iff hplain]
    exact ⟨hs.readRecord_of_perm hperm.symm, hs.readRecord_of_perm hperm⟩
  · intro n hoptional hunset array harray
    rw [json_read_of_ends _ harray]
    exact hs.readRequest_list hoptional hunset

/-- A list of one variable for the fractions of a province. -/
def fractionList : AreaListRequest where
  areaLevel := "FRAC"
  identifiers := ["PERSONA.P03"]
  areaFilter := some ⟨"PROV", ["06"], List.cons_ne_nil _ _⟩

/-- Its fields from the last that is set to the first. -/
def fractionFields : List (String × Json) :=
  [("area_filter", .record [("PROV", .text "06")]), ("variables", .text "PERSONA.P03"),
   ("area_level", .text "FRAC")]

/-- The same in another order, with the kind in the second place. -/
def fractionTagged : List (String × Json) :=
  [("variables", .text "PERSONA.P03"), ("kind", .text "arealist"),
   ("area_filter", .record [("PROV", .text "06")]), ("area_level", .text "FRAC")]

/-- The values alone, up to the last that is set. -/
def fractionValues : List Json :=
  [.text "arealist", .text "FRAC", .texts ["PERSONA.P03"], .record [("PROV", .texts ["06"])]]

theorem fractions_are_read_alike :
    some "kind" ∉ (Json.entryOutlines fractionFields).map Prod.fst ∧
      Json.read (Json.record fractionFields).compact =
        ⟨.record (Json.entryOutlines fractionFields), true⟩ ∧
      Json.read (Json.record fractionTagged).compact =
        ⟨.record (Json.entryOutlines fractionTagged), true⟩ ∧
      Json.read (Json.list fractionValues).compact =
        ⟨.list (Json.outlines fractionValues), true⟩ ∧
      Format.json.read AreaListRequest.struct.read (Json.record fractionFields).compact =
        .ok fractionList ∧
      Format.json.read (fun _ => readRequest) (Json.record fractionTagged).compact =
        .ok (.areaList fractionList) ∧
      Format.json.read (fun _ => readRequest) (Json.list fractionValues).compact =
        .ok (.areaList fractionList) := by
  have hplain : some "kind" ∉ (Json.entryOutlines fractionFields).map Prod.fst := by decide
  have htext : Json.read (Json.record fractionFields).compact =
      ⟨.record (Json.entryOutlines fractionFields), true⟩ := Json.read_compact (by decide)
  have htagged : Json.read (Json.record fractionTagged).compact =
      ⟨.record (Json.entryOutlines fractionTagged), true⟩ := Json.read_compact (by decide)
  have harray : Json.read (Json.list fractionValues).compact =
      ⟨.list (Json.outlines fractionValues), true⟩ := Json.read_compact (by decide)
  have hread : Format.json.read AreaListRequest.struct.read (Json.record fractionFields).compact =
      .ok fractionList := by
    rw [json_read_of_ends _ htext]
    rfl
  have hagrees := tagged_reader_agrees_with_direct .areaList htext hplain fractionList
  have hfields : ∀ f ∈ AreaListRequest.struct.fields.drop 3, f.required = false := by
    simp [AreaListRequest.struct, Reader.Field.make]
  refine ⟨hplain, htext, htagged, harray, hread, ?_, ?_⟩
  · let listed : Option String × Outline := (some "variables", .text "PERSONA.P03")
    have hperm : ([listed] ++ Json.entryOutlines (fractionTagged.drop 2)).Perm
        (Json.entryOutlines fractionFields) := .swap _ _ _
    exact (hagrees.1 _ _ hperm _ htagged).mp hread
  · exact hagrees.2 3 hfields rfl _ harray

end Census.Query
