import Mathlib
import Census.Query.Reader
import Census.Proofs.Prelude
import Census.Proofs.StructReading

/-!
The shapes that the fields of a request ask for, and the requests that records of such fields are
read as. A record is taken just when it has the shape of its kind.
-/

namespace Census.Query

open Reader (Field Struct)

inductive IsText : Outline → String → Prop
  | text (s : String) : IsText (.text s) s

inductive IsFlag : Outline → Bool → Prop
  | bool (b : Bool) : IsFlag (.bool b) b

/-- A text, or a list of texts. -/
inductive IsCodes : Outline → AreaCodes → Prop
  | one (code : String) : IsCodes (.text code) (.one code)
  | many (codes : List String) : IsCodes (.list (codes.map .text)) (.many codes)

/-- A single variable is a list of one. -/
inductive IsVariables : Outline → List String → Prop
  | codes {o : Outline} {codes : AreaCodes} (h : IsCodes o codes) : IsVariables o codes.toList

inductive IsOptional {β : Type} (shape : Outline → β → Prop) : Outline → Option β → Prop
  | absent : IsOptional shape .null none
  | present {o : Outline} {v : β} (h : shape o v) : IsOptional shape o (some v)

/-- Entries of one area type, each with codes; the last of them counts. -/
inductive IsFilter : Outline → AreaFilter → Prop
  | record {entries : List (Option String × Outline)} {given : List (String × AreaCodes)}
    {f : AreaFilter} {codes : AreaCodes}
    (hgiven : List.Forall₂ (fun e g => e.1 = some g.1 ∧ IsCodes e.2 g.2) entries given)
    (htypes : ∀ g ∈ given, g.1 = f.areaType)
    (hlast : given.getLast? = some (f.areaType, codes)) (hcodes : codes.toList = f.codes) :
    IsFilter (.record entries) f

theorem text_eq_ok_iff {o : Outline} {s : String} : Reader.text o = .ok s ↔ IsText o s := by
  constructor
  · intro h
    cases o with
    | text s' =>
      obtain rfl : s' = s := Except.ok.inj h
      exact .text s'
    | _ => cases h
  · rintro ⟨⟩
    rfl

theorem flag_eq_ok_iff {o : Outline} {b : Bool} : Reader.flag o = .ok b ↔ IsFlag o b := by
  constructor
  · intro h
    cases o with
    | bool b' =>
      obtain rfl : b' = b := Except.ok.inj h
      exact .bool b'
    | _ => cases h
  · rintro ⟨⟩
    rfl

theorem forall₂_isText_iff {items : List Outline} {codes : List String} :
    List.Forall₂ (fun o s => Reader.text o = .ok s) items codes ↔ items = codes.map .text := by
  have hsame (o : Outline) (s : String) : Reader.text o = .ok s ↔ o = .text s := by
    rw [text_eq_ok_iff]
    exact ⟨fun ⟨_⟩ => rfl, fun h => h ▸ .text s⟩
  simp only [hsame]
  rw [← List.forall₂_map_right_iff, List.forall₂_eq_eq_eq]

theorem isReadable_list_text (codes : List String) :
    (Outline.list (codes.map .text)).isReadable = true := by
  rw [Outline.isReadable]
  induction codes with
  | nil => rfl
  | cons code codes ih => rw [List.map_cons, Outline.allReadable, ih]; rfl

theorem readCodes_eq_ok_iff {o : Outline} {codes : AreaCodes} :
    readCodes o = .ok codes ↔ IsCodes o codes := by
  constructor
  · intro h
    cases o with
    | text s =>
      obtain rfl : .one s = codes := Except.ok.inj h
      exact .one s
    | list items =>
      cases hitems : items.mapM Reader.text with
      | error e =>
        simp only [readCodes, hitems] at h
        split_ifs at h
      | ok texts =>
        obtain rfl : items = texts.map .text := forall₂_isText_iff.mp (mapM_eq_ok_iff.mp hitems)
        obtain rfl : .many texts = codes := by
          simpa [readCodes, hitems, isReadable_list_text] using h
        exact .many texts
    | _ =>
      simp only [readCodes] at h
      split_ifs at h
  · rintro (code | texts)
    · rfl
    · have htexts : (texts.map Outline.text).mapM Reader.text = .ok texts :=
        mapM_eq_ok_iff.mpr (forall₂_isText_iff.mpr rfl)
      simp only [readCodes, isReadable_list_text, if_true, htexts]

theorem readVariables_eq_ok_iff {o : Outline} {identifiers : List String} :
    readVariables o = .ok identifiers ↔ IsVariables o identifiers := by
  rw [readVariables, map_eq_ok_iff]
  constructor
  · rintro ⟨codes, hcodes, rfl⟩
    exact .codes (readCodes_eq_ok_iff.mp hcodes)
  · rintro ⟨hcodes⟩
    exact ⟨_, readCodes_eq_ok_iff.mpr hcodes, rfl⟩

theorem optional_eq_ok_iff {β : Type} {read : Reader β} {shape : Outline → β → Prop}
    (hread : ∀ o v, read o = .ok v ↔ shape o v) (hnull : ∀ v, ¬ shape .null v) {o : Outline}
    {value : Option β} :
    Reader.optional read o = .ok value ↔ IsOptional shape o value := by
  -- Null is taken for absence before the reader is asked.
  by_cases ho : o = .null
  · subst ho
    have hleft : Reader.optional read .null = .ok value ↔ none = value := by
      rw [Reader.optional, Except.ok.injEq]
    rw [hleft]
    constructor
    · rintro rfl
      exact .absent
    · intro h
      cases h with
      | absent => rfl
      | present hv => exact absurd hv (hnull _)
  · have hleft : Reader.optional read o = (read o).map some := by
      cases o with
      | null => exact absurd rfl ho
      | _ => rfl
    rw [hleft, map_eq_ok_iff]
    constructor
    · rintro ⟨v, hv, rfl⟩
      exact .present ((hread o v).mp hv)
    · intro h
      cases h with
      | absent => exact absurd rfl ho
      | present hv => exact ⟨_, (hread o _).mpr hv, rfl⟩

theorem readFilterEntries_eq_ok_iff {entries : List (Option String × Outline)}
    {given : List (String × AreaCodes)} :
    readFilterEntries entries = .ok given ↔
      List.Forall₂ (fun e g => e.1 = some g.1 ∧ IsCodes e.2 g.2) entries given := by
  induction entries generalizing given with
  | nil =>
    rw [readFilterEntries, List.forall₂_nil_left_iff, Except.ok.injEq]
    exact eq_comm
  | cons e later ih =>
    obtain ⟨key?, o⟩ := e
    rw [List.forall₂_cons_left_iff]
    cases key? with
    | none => simp [readFilterEntries]
    | some areaType =>
      simp only [readFilterEntries, bind_eq_ok_iff, readCodes_eq_ok_iff, ih]
      constructor
      · rintro ⟨codes, hcodes, rest, hrest, hgiven⟩
        exact ⟨(areaType, codes), rest, ⟨rfl, hcodes⟩, hrest, (Except.ok.inj hgiven).symm⟩
      · rintro ⟨⟨areaType', codes⟩, rest, ⟨hkey, hcodes⟩, hrest, rfl⟩
        obtain rfl : areaType = areaType' := Option.some.inj hkey
        exact ⟨codes, hcodes, rest, hrest, rfl⟩

theorem length_eraseDups_eq_one_iff {keys : List String} {last : String}
    (hlast : last ∈ keys) : keys.eraseDups.length = 1 ↔ ∀ key ∈ keys, key = last := by
  cases keys with
  | nil => cases hlast
  | cons first later =>
    have hothers : (later.filter fun b => !b == first).eraseDups = [] ↔
        ∀ key ∈ later, key = first := by
      have hnil (l : List String) : l.eraseDups = [] ↔ l = [] := by
        cases l with
        | nil => simp
        | cons a as => simp [List.eraseDups_cons]
      rw [hnil, List.filter_eq_nil_iff]
      simp
    rw [List.eraseDups_cons, List.length_cons, Nat.add_eq_right, List.length_eq_zero_iff, hothers]
    constructor
    · intro h key hkey
      have hfirst : ∀ key ∈ first :: later, key = first := List.forall_mem_cons.mpr ⟨rfl, h⟩
      rw [hfirst key hkey, hfirst last hlast]
    · intro h key hkey
      rw [h key (List.mem_cons_of_mem _ hkey), h first List.mem_cons_self]

theorem ofEntries_eq_ok_iff {given : List (String × AreaCodes)} {f : AreaFilter} :
    AreaFilter.ofEntries given = .ok f ↔
      (∀ g ∈ given, g.1 = f.areaType) ∧
        ∃ codes, given.getLast? = some (f.areaType, codes) ∧ codes.toList = f.codes := by
  rw [AreaFilter.ofEntries]
  cases hlast : given.getLast? with
  | none => simp
  | some last =>
    obtain ⟨areaType, codes⟩ := last
    have hmem : areaType ∈ given.map Prod.fst :=
      List.mem_map_of_mem (List.mem_of_getLast? hlast)
    have hkeys := length_eraseDups_eq_one_iff hmem
    have hmake : AreaFilter.make areaType codes = .ok f ↔
        areaType = f.areaType ∧ codes.toList = f.codes := by
      rw [AreaFilter.make]
      obtain ⟨areaType', codes', hne⟩ := f
      split_ifs with h
      · simp only [false_iff]
        rintro ⟨-, hcodes⟩
        exact hne (hcodes ▸ h)
      · simp
    simp only [hkeys, List.forall_mem_map]
    split_ifs with hall
    · rw [hmake]
      constructor
      · rintro ⟨rfl, hcodes⟩
        exact ⟨hall, codes, rfl, hcodes⟩
      · rintro ⟨-, codes', hcodes', hcodes⟩
        obtain ⟨rfl, rfl⟩ := Prod.mk.inj (Option.some.inj hcodes')
        exact ⟨rfl, hcodes⟩
    · simp only [false_iff]
      rintro ⟨htypes, codes', hcodes', -⟩
      obtain ⟨rfl, -⟩ := Prod.mk.inj (Option.some.inj hcodes')
      exact hall htypes

theorem readFilter_eq_ok_iff {o : Outline} {f : AreaFilter} :
    readFilter o = .ok f ↔ IsFilter o f := by
  constructor
  · intro h
    cases o with
    | record entries =>
      obtain ⟨given, hgiven, hf⟩ := bind_eq_ok_iff.mp h
      obtain ⟨htypes, codes, hlast, hcodes⟩ := ofEntries_eq_ok_iff.mp (mapError_eq_ok_iff.mp hf)
      exact .record (readFilterEntries_eq_ok_iff.mp hgiven) htypes hlast hcodes
    | _ => cases h
  · rintro ⟨hgiven, htypes, hlast, hcodes⟩
    have hf := ofEntries_eq_ok_iff.mpr ⟨htypes, _, hlast, hcodes⟩
    exact bind_eq_ok_iff.mpr
      ⟨_, readFilterEntries_eq_ok_iff.mpr hgiven, mapError_eq_ok_iff.mpr hf⟩

end Census.Query
