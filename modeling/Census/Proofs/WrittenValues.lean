import Mathlib
import Census.Config
import Census.Proofs.RequestRoundTrip

/-!
Every value that can be given to the tool as JSON is read back from the JSON that is written of it,
be that on one line or over several.
-/

namespace Census

open Reader (Struct)

/-- Both texts written of `v` are read as `a`. -/
def Json.ReadsAs {α : Type} (v : Json) (reader : Manner → Reader α) (a : α) : Prop :=
  Format.json.read reader v.compact = .ok a ∧ Format.json.read reader v.pretty = .ok a

theorem Json.readsAs_of_outline {α : Type} {v : Json} {reader : Manner → Reader α} {a : α}
    (hdepth : depth v ≤ maxDepth) (h : reader .json v.outline = .ok a) : v.ReadsAs reader a := by
  constructor
  · rw [Query.json_read_of_ends reader (read_compact hdepth), h]
  · rw [Query.json_read_of_ends reader (read_pretty hdepth), h]

theorem Json.readsAs_of_shallow {α : Type} {v : Json} {reader : Manner → Reader α} {a : α}
    (hdepth : depth v ≤ 2) (h : reader .json v.outline = .ok a) : v.ReadsAs reader a :=
  readsAs_of_outline (Nat.le_trans hdepth (by decide)) h

theorem Row.read_toJson (manner : Manner) (r : Row) :
    Row.struct.read manner r.toJson.outline = .ok r := by
  let items : List Outline :=
    [.text r.code, .text r.entityName, .text r.variableName, .text r.typeTag]
  have hfill : Struct.fill struct.fields items struct.initial = .ok r := rfl
  exact Struct.readRecord_of_fill (by decide) rfl hfill

theorem Row.depth_toJson_le (r : Row) : Json.depth r.toJson ≤ 1 :=
  Nat.le_refl 1

theorem depth_rowsJson_le (rows : List Row) : Json.depth (rowsJson rows) ≤ 2 := by
  rw [rowsJson, Json.depth]
  exact Nat.succ_le_succ (Json.depthItems_map_le Row.depth_toJson_le rows)

theorem readRows_rowsJson (manner : Manner) (rows : List Row) :
    readRows manner (rowsJson rows).outline = .ok rows := by
  have houtline : (rowsJson rows).outline = .list (rows.map fun r => r.toJson.outline) := by
    rw [rowsJson, Json.outline, Json.outlines_eq_map, List.map_map]
    rfl
  rw [houtline]
  apply mapM_eq_ok_iff.mpr
  rw [List.forall₂_map_left_iff, List.forall₂_same]
  exact fun r _ => r.read_toJson manner

theorem TrailingEntity.read_name (manner : Manner) (t : TrailingEntity) :
    Reader.variant variants manner (.text t.name) = .ok t := by
  cases t <;> rfl

theorem CategoryMode.read_name (manner : Manner) (mode : CategoryMode) :
    Reader.variant variants manner (.text mode.name) = .ok mode := by
  cases mode <;> rfl

theorem Layout.read_toJson (manner : Manner) (l : Layout) :
    (Layout.struct manner).read manner l.toJson.outline = .ok l := by
  let items : List Outline :=
    [.text l.geoTypeTag, .text l.trailingEntity.name, .text l.nameLabel, .text l.entityLabel,
      .text l.categoryMode.name]
  have hfill : Struct.fill (struct manner).fields items (struct manner).initial = .ok l := by
    refine (Struct.fill_make (Query.readText_toJson l.geoTypeTag) _ _ _).trans ?_
    refine (Struct.fill_make (l.trailingEntity.read_name manner) _ _ _).trans ?_
    refine (Struct.fill_make (Query.readText_toJson l.nameLabel) _ _ _).trans ?_
    refine (Struct.fill_make (Query.readText_toJson l.entityLabel) _ _ _).trans ?_
    refine (Struct.fill_make (l.categoryMode.read_name manner) _ _ _).trans ?_
    rfl
  have hnames : (struct manner).fieldNames.Nodup := by cases manner <;> decide
  exact Struct.readRecord_of_fill hnames rfl hfill

theorem Layout.depth_toJson_le (l : Layout) : Json.depth l.toJson ≤ 1 :=
  Nat.le_refl 1

theorem CategoryRequest.read_toJson (manner : Manner) (r : CategoryRequest) :
    CategoryRequest.struct.read manner r.toJson.outline = .ok r := by
  let items : List Outline := [.text r.base, .text r.main, .text r.userCode]
  have hfill : Struct.fill struct.fields items struct.initial = .ok r := rfl
  exact Struct.readRecord_of_fill (by decide) rfl hfill

theorem CategoryRequest.depth_toJson_le (r : CategoryRequest) : Json.depth r.toJson ≤ 1 :=
  Nat.le_refl 1

theorem Config.read_toJson (manner : Manner) (c : Config) :
    (Config.struct manner).read manner c.toJson.outline = .ok c := by
  let items := [c.database.toJson.outline, c.dictionary.toJson.outline]
  have hfill : Struct.fill (struct manner).fields items (struct manner).initial = .ok c := by
    refine (Struct.fill_make (c.database.read_toJson manner) _ _ _).trans ?_
    refine (Struct.fill_make (c.dictionary.read_toJson manner) _ _ _).trans ?_
    rfl
  have hnames : (struct manner).fieldNames.Nodup := by cases manner <;> decide
  exact Struct.readRecord_of_fill hnames rfl hfill

theorem Config.depth_toJson_le (c : Config) : Json.depth c.toJson ≤ 2 :=
  Nat.le_refl 2

namespace Query

theorem readCodes_toJson (codes : AreaCodes) : readCodes codes.toJson.outline = .ok codes := by
  cases codes with
  | one code => rfl
  | many codes =>
    rw [AreaCodes.toJson, Json.outline_texts]
    exact readCodes_eq_ok_iff.mpr (.many codes)

theorem AreaCodes.depth_toJson_le (codes : AreaCodes) : Json.depth codes.toJson ≤ 1 := by
  cases codes with
  | one code => exact Nat.zero_le 1
  | many codes => exact Json.depth_texts_le codes

theorem AreaFilter.depth_toJson_le (f : AreaFilter) : Json.depth f.toJson ≤ 2 :=
  depth_optionalFilter_le (some f)

end Query

section Values

open Query

/-- Whatever is written of a value of any of these types, on one line or over several, is read as
the value. -/
theorem written_values_are_read_back :
    (∀ r : Request, r.toJson.ReadsAs (fun _ => readRequest) r) ∧
    (∀ q : AreaListRequest, q.toJson.ReadsAs AreaListRequest.struct.read q) ∧
    (∀ q : CounterRequest, q.toJson.ReadsAs CounterRequest.struct.read q) ∧
    (∀ q : MedianRequest, q.toJson.ReadsAs MedianRequest.struct.read q) ∧
    (∀ f : AreaFilter, f.toJson.ReadsAs (fun _ => readFilter) f) ∧
    (∀ codes : AreaCodes, codes.toJson.ReadsAs (fun _ => readCodes) codes) ∧
    (∀ identifiers, (Json.texts identifiers).ReadsAs (fun _ => readVariables) identifiers) ∧
    (∀ r : Row, r.toJson.ReadsAs Row.struct.read r) ∧
    (∀ rows, (rowsJson rows).ReadsAs readRows rows) ∧
    (∀ l : Layout, l.toJson.ReadsAs (fun manner => (Layout.struct manner).read manner) l) ∧
    (∀ r : CategoryRequest, r.toJson.ReadsAs CategoryRequest.struct.read r) ∧
    (∀ c : Config, c.toJson.ReadsAs (fun manner => (Config.struct manner).read manner) c) := by
  refine ⟨?_, ?_, ?_, ?_, ?_, ?_, ?_, ?_, ?_, ?_, ?_, ?_⟩
  · exact fun r => Json.readsAs_of_outline r.depth_toJson_le (readRequest_toJson r)
  · exact fun q => Json.readsAs_of_outline (Request.areaList q).depth_record_le q.readRecord_entries
  · exact fun q => Json.readsAs_of_outline (Request.counter q).depth_record_le q.readRecord_entries
  · exact fun q => Json.readsAs_of_outline (Request.median q).depth_record_le q.readRecord_entries
  · exact fun f => Json.readsAs_of_shallow f.depth_toJson_le (readFilter_toJson f)
  · exact fun codes => Json.readsAs_of_shallow (Nat.le_succ_of_le codes.depth_toJson_le)
      (readCodes_toJson codes)
  · exact fun identifiers => Json.readsAs_of_shallow
      (Nat.le_succ_of_le (Json.depth_texts_le identifiers)) (readVariables_texts identifiers)
  · exact fun r => Json.readsAs_of_shallow (Nat.le_succ_of_le r.depth_toJson_le)
      (r.read_toJson .json)
  · exact fun rows => Json.readsAs_of_shallow (depth_rowsJson_le rows)
      (readRows_rowsJson .json rows)
  · exact fun l => Json.readsAs_of_shallow (Nat.le_succ_of_le l.depth_toJson_le)
      (l.read_toJson .json)
  · exact fun r => Json.readsAs_of_shallow (Nat.le_succ_of_le r.depth_toJson_le)
      (r.read_toJson .json)
  · exact fun c => Json.readsAs_of_shallow c.depth_toJson_le (c.read_toJson .json)

end Values

end Census
