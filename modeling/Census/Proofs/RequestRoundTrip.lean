import Mathlib
import Census.Query.Written
import Census.Proofs.JsonOutlines
import Census.Proofs.RequestReading

/-!
A request that is written as JSON is read back as itself.
-/

namespace Census

namespace Query

open Reader (Struct)

theorem readText_toJson (s : String) : Reader.text (Json.text s).outline = .ok s :=
  rfl

theorem readFlag_toJson (b : Bool) : Reader.flag (Json.bool b).outline = .ok b :=
  rfl

theorem readVariables_texts (items : List String) :
    readVariables (Json.texts items).outline = .ok items := by
  rw [Json.outline_texts]
  exact readVariables_eq_ok_iff.mpr (.codes (.many items))

theorem readOptionalText_toJson (value : Option String) :
    Reader.optional Reader.text (optionalJson .text value).outline = .ok value := by
  cases value <;> rfl

theorem readFilter_toJson (f : AreaFilter) : readFilter f.toJson.outline = .ok f := by
  have hcodes : IsCodes (Json.texts f.codes).outline (.many f.codes) := by
    rw [Json.outline_texts]
    exact .many f.codes
  apply readFilter_eq_ok_iff.mpr
  exact .record (.cons ⟨rfl, hcodes⟩ .nil) (by simp) rfl rfl

theorem readOptionalFilter_toJson (value : Option AreaFilter) :
    Reader.optional readFilter (optionalJson AreaFilter.toJson value).outline = .ok value := by
  cases value with
  | none => rfl
  | some f =>
    have hsome : Reader.optional readFilter (optionalJson AreaFilter.toJson (some f)).outline =
        (readFilter f.toJson.outline).map some := rfl
    rw [hsome, readFilter_toJson]
    rfl

theorem AreaListRequest.readRecord_entries (q : AreaListRequest) :
    struct.readRecord (Json.entryOutlines q.entries) = .ok q := by
  let items := q.entries.map fun e => e.2.outline
  have hfill : Struct.fill struct.fields items struct.initial = .ok q := by
    refine (Struct.fill_make (readText_toJson q.areaLevel) _ _ _).trans ?_
    refine (Struct.fill_make (readVariables_texts q.identifiers) _ _ _).trans ?_
    refine (Struct.fill_make (readOptionalFilter_toJson q.areaFilter) _ _ _).trans ?_
    refine (Struct.fill_make (readOptionalText_toJson q.universeFilter) _ _ _).trans ?_
    refine (Struct.fill_make (readOptionalText_toJson q.title) _ _ _).trans ?_
    refine (Struct.fill_make (readFlag_toJson q.includeAreaName) _ _ _).trans ?_
    rfl
  exact Struct.readRecord_of_fill regular.names rfl hfill

theorem CounterRequest.readRecord_entries (q : CounterRequest) :
    struct.readRecord (Json.entryOutlines q.entries) = .ok q := by
  let items := q.entries.map fun e => e.2.outline
  have hfill : Struct.fill struct.fields items struct.initial = .ok q := by
    refine (Struct.fill_make (readText_toJson q.areaLevel) _ _ _).trans ?_
    refine (Struct.fill_make (readText_toJson q.countedEntity) _ _ _).trans ?_
    refine (Struct.fill_make (readOptionalFilter_toJson q.areaFilter) _ _ _).trans ?_
    refine (Struct.fill_make (readOptionalText_toJson q.universeFilter) _ _ _).trans ?_
    refine (Struct.fill_make (readOptionalText_toJson q.title) _ _ _).trans ?_
    refine (Struct.fill_make (readFlag_toJson q.includeAreaName) _ _ _).trans ?_
    refine (Struct.fill_make (readFlag_toJson q.includeTotal) _ _ _).trans ?_
    rfl
  exact Struct.readRecord_of_fill regular.names rfl hfill

theorem MedianRequest.readRecord_entries (q : MedianRequest) :
    struct.readRecord (Json.entryOutlines q.entries) = .ok q := by
  let items := q.entries.map fun e => e.2.outline
  have hfill : Struct.fill struct.fields items struct.initial = .ok q := by
    refine (Struct.fill_make (readText_toJson q.variableName) _ _ _).trans ?_
    refine (Struct.fill_make (readOptionalText_toJson q.byVar1) _ _ _).trans ?_
    refine (Struct.fill_make (readOptionalText_toJson q.byVar2) _ _ _).trans ?_
    refine (Struct.fill_make (readFlag_toJson q.includeFullNames) _ _ _).trans ?_
    refine (Struct.fill_make (readOptionalText_toJson q.areaBreak) _ _ _).trans ?_
    refine (Struct.fill_make (readOptionalFilter_toJson q.areaFilter) _ _ _).trans ?_
    refine (Struct.fill_make (readOptionalText_toJson q.universeFilter) _ _ _).trans ?_
    refine (Struct.fill_make (readOptionalText_toJson q.title) _ _ _).trans ?_
    rfl
  exact Struct.readRecord_of_fill regular.names rfl hfill

theorem Request.readContent_entries (r : Request) :
    readContent r.kind (.record (Json.entryOutlines r.entries)) = .ok r := by
  cases r with
  | areaList q => exact map_read_record_eq_ok_iff.mpr ⟨q, q.readRecord_entries, rfl⟩
  | counter q => exact map_read_record_eq_ok_iff.mpr ⟨q, q.readRecord_entries, rfl⟩
  | median q => exact map_read_record_eq_ok_iff.mpr ⟨q, q.readRecord_entries, rfl⟩
  | reserved r => rfl

theorem Request.key_ne_kind (r : Request) : ∀ p ∈ r.entries, p.1 ≠ "kind" := by
  cases r <;> simp [entries, AreaListRequest.entries, CounterRequest.entries, MedianRequest.entries]

/-- What is written of a request says what the request is. -/
theorem readRequest_toJson (r : Request) : readRequest r.toJson.outline = .ok r := by
  have houtline : r.toJson.outline =
      .record ((some "kind", .text r.kind.name) :: Json.entryOutlines r.entries) := rfl
  have hheld : ∀ e ∈ Json.entryOutlines r.entries, Held e := by
    intro e he
    obtain ⟨p, hp, rfl⟩ := Json.mem_entryOutlines he
    exact ⟨p.1, rfl, r.key_ne_kind p hp, p.2.isReadable_outline⟩
  rw [houtline]
  exact readRequest_record_eq_ok_iff.mpr
    ⟨[], _, r.kind, _, rfl, readTag_name r.kind, hheld, r.readContent_entries⟩

theorem depth_optionalText (value : Option String) :
    Json.depth (optionalJson .text value) = 0 := by
  cases value <;> rfl

theorem depth_optionalFilter_le (value : Option AreaFilter) :
    Json.depth (optionalJson AreaFilter.toJson value) ≤ 2 := by
  cases value with
  | none => exact Nat.zero_le 2
  | some f =>
    have hcodes := Json.depth_texts_le f.codes
    simp only [optionalJson, AreaFilter.toJson, Json.depth, Json.depthEntries]
    omega

theorem Request.depthEntries_le (r : Request) : Json.depthEntries r.entries ≤ 2 := by
  cases r with
  | areaList q =>
    have hvariables := Json.depth_texts_le q.identifiers
    have hfilter := depth_optionalFilter_le q.areaFilter
    simp only [entries, AreaListRequest.entries, Json.depthEntries, depth_optionalText, Json.depth]
    omega
  | counter q =>
    have hfilter := depth_optionalFilter_le q.areaFilter
    simp only [entries, CounterRequest.entries, Json.depthEntries, depth_optionalText, Json.depth]
    omega
  | median q =>
    have hfilter := depth_optionalFilter_le q.areaFilter
    simp only [entries, MedianRequest.entries, Json.depthEntries, depth_optionalText, Json.depth]
    omega
  | reserved r => exact Nat.zero_le 2

/-- With the kind in front or without it, a request is not nested too deeply. -/
theorem Request.depth_record_le (r : Request) : Json.depth (.record r.entries) ≤ Json.maxDepth := by
  have hmax : 3 ≤ Json.maxDepth := by decide
  exact Nat.le_trans (Nat.succ_le_succ r.depthEntries_le) hmax

theorem Request.depth_toJson_le (r : Request) : Json.depth r.toJson ≤ Json.maxDepth := by
  have hkind : Json.depth r.toJson = Json.depth (.record r.entries) := by
    rw [toJson, Json.depth, Json.depthEntries, Kind.toJson, Json.depth, Nat.zero_max, Json.depth]
  exact hkind ▸ r.depth_record_le

end Query

end Census
