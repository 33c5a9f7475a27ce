import Mathlib
import Census.Proofs.LineShape

/-!
The grammar of a line of the feed. The first separator of a line decides its shape, whatever
characters stand around it: a separator is one byte of the UTF-8 text that stands in no other
character, so a line can be searched and cut byte by byte.
-/

namespace Census

namespace Text

/-- Where the byte of a character first stands. -/
def byteOffset? (sep : Char) (bytes : ByteArray) : Option ℕ :=
  bytes.data.toList.idxOf? sep.toUInt8

/-- The characters that bytes spell, unless one of the characters is cut in two. -/
def spelled? (bytes : ByteArray) : Option (List Char) :=
  (String.fromUTF8? bytes).map String.toList

theorem spelled?_utf8Encode (cs : List Char) : spelled? cs.utf8Encode = some cs := by
  have hvalid : cs.utf8Encode.IsValidUTF8 := ByteArray.isValidUTF8_utf8Encode
  have hstring : String.fromUTF8 cs.utf8Encode hvalid = String.ofList cs :=
    String.toByteArray_inj.mp (by simp [String.fromUTF8])
  rw [spelled?, String.fromUTF8?, dif_pos hvalid, hstring, Option.map_some, String.toList_ofList]

/-- Every byte of a character outside ASCII has its high bit set. -/
theorem le_of_mem_utf8EncodeChar {c : Char} (hc : 127 < c.val) {b : UInt8}
    (hb : b ∈ String.utf8EncodeChar c) : 128 ≤ b.toNat := by
  have hor (x k : UInt8) (hk : 128 ≤ k.toNat) : 128 ≤ (x ||| k).toNat := by
    rw [UInt8.toNat_or]
    exact hk.trans Nat.right_le_or
  have hsize : c.utf8Size ≠ 1 := fun hone =>
    absurd (Char.utf8Size_eq_one_iff.mp hone) (UInt32.not_le.mpr hc)
  rcases c.utf8Size_eq with hone | htwo | hthree | hfour
  · exact absurd hone hsize
  · rw [String.utf8EncodeChar_eq_cons_cons htwo] at hb
    simp only [List.mem_cons, List.not_mem_nil, or_false] at hb
    rcases hb with rfl | rfl
    · exact hor _ _ (by decide)
    · exact hor _ _ (by decide)
  · rw [String.utf8EncodeChar_eq_cons_cons_cons hthree] at hb
    simp only [List.mem_cons, List.not_mem_nil, or_false] at hb
    rcases hb with rfl | rfl | rfl
    · exact hor _ _ (by decide)
    · exact hor _ _ (by decide)
    · exact hor _ _ (by decide)
  · rw [String.utf8EncodeChar_eq_cons_cons_cons_cons hfour] at hb
    simp only [List.mem_cons, List.not_mem_nil, or_false] at hb
    rcases hb with rfl | rfl | rfl | rfl
    · exact hor _ _ (by decide)
    · exact hor _ _ (by decide)
    · exact hor _ _ (by decide)
    · exact hor _ _ (by decide)

section Separators

variable {sep : Char}

theorem toNat_toUInt8_of_ascii (h : sep.val ≤ 127) : sep.toUInt8.toNat = sep.val.toNat := by
  have hle : sep.val.toNat ≤ 127 := UInt32.le_iff_toNat_le.mp h
  rw [Char.toUInt8, UInt32.toNat_toUInt8]
  omega

theorem utf8EncodeChar_of_ascii (h : sep.val ≤ 127) : String.utf8EncodeChar sep = [sep.toUInt8] :=
  String.utf8EncodeChar_eq_singleton (Char.utf8Size_eq_one_iff.mpr h)

/-- The byte of an ASCII character stands for that character only. -/
theorem toUInt8_not_mem_utf8Encode (hsep : sep.val ≤ 127) {cs : List Char} (h : sep ∉ cs) :
    sep.toUInt8 ∉ cs.utf8Encode.data.toList := by
  rw [List.utf8Encode, List.data_toByteArray, List.mem_flatMap]
  rintro ⟨c, hc, hbyte⟩
  -- A character of ASCII is its own byte, so it would be the separator; others have greater bytes.
  by_cases hascii : c.val ≤ 127
  · rw [utf8EncodeChar_of_ascii hascii, List.mem_singleton] at hbyte
    have hval : sep.val.toNat = c.val.toNat := by
      rw [← toNat_toUInt8_of_ascii hsep, hbyte, toNat_toUInt8_of_ascii hascii]
    have hsame : sep = c := Char.ext (UInt32.toNat_inj.mp hval)
    exact h (hsame ▸ hc)
  · have hhigh := le_of_mem_utf8EncodeChar (UInt32.not_le.mp hascii) hbyte
    have hlow : sep.val.toNat ≤ 127 := UInt32.le_iff_toNat_le.mp hsep
    rw [toNat_toUInt8_of_ascii hsep] at hhigh
    omega

theorem size_utf8Encode_concat (hsep : sep.val ≤ 127) (before : List Char) :
    (before ++ [sep]).utf8Encode.size = before.utf8Encode.size + 1 := by
  rw [List.utf8Encode_append, ByteArray.size_append, List.utf8Encode_singleton,
    utf8EncodeChar_of_ascii hsep]
  rfl

theorem byteOffset?_of_not_mem (hsep : sep.val ≤ 127) {line : List Char} (h : sep ∉ line) :
    byteOffset? sep line.utf8Encode = none :=
  List.idxOf?_eq_none_iff.mpr (toUInt8_not_mem_utf8Encode hsep h)

/-- What holds no separator is passed over. -/
theorem byteOffset?_append (hsep : sep.val ≤ 127) {front : List Char} (h : sep ∉ front)
    (line : List Char) :
    byteOffset? sep (front ++ line).utf8Encode =
      (byteOffset? sep line.utf8Encode).map fun i => i + front.utf8Encode.size := by
  have hfront : front.utf8Encode.data.toList.idxOf? sep.toUInt8 = none :=
    byteOffset?_of_not_mem hsep h
  have hlength : front.utf8Encode.data.toList.length = front.utf8Encode.size := by simp
  rw [byteOffset?, List.utf8Encode_append, ByteArray.data_append, Array.toList_append,
    List.idxOf?, List.findIdx?_append, ← List.idxOf?, hfront, Option.none_or, hlength, byteOffset?]

theorem byteOffset?_append_cons (hsep : sep.val ≤ 127) {before : List Char} (h : sep ∉ before)
    (after : List Char) :
    byteOffset? sep (before ++ sep :: after).utf8Encode = some before.utf8Encode.size := by
  have hfirst : byteOffset? sep (sep :: after).utf8Encode = some 0 := by
    rw [byteOffset?, List.utf8Encode_cons, List.utf8Encode_singleton, utf8EncodeChar_of_ascii hsep]
    simp [List.idxOf?_cons]
  rw [byteOffset?_append hsep h, hfirst, Option.map_some, Nat.zero_add]

/-- A separator behind another character of one byte is found further on. -/
theorem byteOffset?_behind (hsep : sep.val ≤ 127) {other : Char} (hother : other.val ≤ 127)
    {before : List Char} (h : sep ∉ before) (hne : sep ≠ other) (after : List Char) :
    byteOffset? sep (before ++ other :: after).utf8Encode =
      (byteOffset? sep after.utf8Encode).map fun i => i + (before.utf8Encode.size + 1) := by
  have hfront : sep ∉ before ++ [other] := by simp [h, hne]
  rw [← size_utf8Encode_concat hother, ← byteOffset?_append hsep hfront, List.append_assoc,
    List.singleton_append]

/-- What stands on either side of a separator is spelled by the bytes on either side of its own. -/
theorem spelled?_extract (hsep : sep.val ≤ 127) (before after : List Char) :
    spelled? ((before ++ sep :: after).utf8Encode.extract 0 before.utf8Encode.size) = some before ∧
      spelled? ((before ++ sep :: after).utf8Encode.extract (before.utf8Encode.size + 1)
        (before ++ sep :: after).utf8Encode.size) = some after := by
  constructor
  · rw [List.utf8Encode_append, ByteArray.extract_append_eq_left rfl, spelled?_utf8Encode]
  · have hline : (before ++ sep :: after).utf8Encode =
        (before ++ [sep]).utf8Encode ++ after.utf8Encode := by
      rw [← List.utf8Encode_append, List.append_assoc, List.singleton_append]
    rw [hline, ByteArray.extract_append_eq_right (size_utf8Encode_concat hsep before).symm
      ByteArray.size_append, spelled?_utf8Encode]

/-- Both sides of a separator are boundaries of characters. -/
theorem isValid_append_cons (hsep : sep.val ≤ 127) (before after : List Char) :
    (⟨before.utf8Encode.size⟩ : String.Pos.Raw).IsValid (String.ofList (before ++ sep :: after)) ∧
      (⟨before.utf8Encode.size + 1⟩ : String.Pos.Raw).IsValid
        (String.ofList (before ++ sep :: after)) := by
  have hend (cs : List Char) : (String.ofList cs).rawEndPos = ⟨cs.utf8Encode.size⟩ := by
    rw [← String.toByteArray_ofList, String.size_toByteArray]
    rfl
  constructor
  · refine String.Pos.Raw.isValid_iff_exists_append.mpr
      ⟨String.ofList before, String.ofList (sep :: after), String.ofList_append, ?_⟩
    rw [hend]
  · refine String.Pos.Raw.isValid_iff_exists_append.mpr
      ⟨String.ofList (before ++ [sep]), String.ofList after, ?_, ?_⟩
    · rw [← String.ofList_append, List.append_assoc, List.singleton_append]
    · rw [hend, size_utf8Encode_concat hsep]

theorem isValid_of_mem_byteOffset? (hsep : sep.val ≤ 127) {line : List Char} {i : ℕ}
    (hi : i ∈ byteOffset? sep line.utf8Encode) :
    (⟨i⟩ : String.Pos.Raw).IsValid (String.ofList line) ∧
      (⟨i + 1⟩ : String.Pos.Raw).IsValid (String.ofList line) := by
  have hmem : sep ∈ line := by
    by_contra hnot
    rw [byteOffset?_of_not_mem hsep hnot] at hi
    cases hi
  obtain ⟨before, after, rfl, hbefore⟩ := List.eq_append_cons_of_mem hmem
  rw [byteOffset?_append_cons hsep hbefore, Option.mem_some_iff] at hi
  exact hi ▸ isValid_append_cons hsep before after

end Separators

end Text

namespace FeedLine

/-- The line with its field cut at this byte. -/
def fieldAt? (line : ByteArray) (i : ℕ) : Option FeedLine := do
  let label ← Text.spelled? (line.extract 0 i)
  let value ← Text.spelled? (line.extract (i + 1) line.size)
  return .field (trimmed label) (trimmed value)

def categoryAt? (line : ByteArray) (i : ℕ) : Option FeedLine := do
  let code ← Text.spelled? (line.extract 0 i)
  let label ← Text.spelled? (line.extract (i + 1) line.size)
  return if trimmed code = "" then .malformed else .category (trimmed code) (trimmed label)

/-- The shape of a line found by the offsets of its separators, unless one of them lies inside a
character. -/
def classifyBytes? (line : ByteArray) : Option FeedLine :=
  match Text.byteOffset? ':' line, Text.byteOffset? '.' line with
  | none, none => some .other
  | some i, none => fieldAt? line i
  | none, some j => categoryAt? line j
  | some i, some j => if i < j then fieldAt? line i else categoryAt? line j

theorem ascii_colon : ':'.val ≤ 127 := by decide

theorem ascii_point : '.'.val ≤ 127 := by decide

theorem fieldAt?_append_cons (before after : List Char) :
    fieldAt? (before ++ ':' :: after).utf8Encode before.utf8Encode.size =
      some (.field (trimmed before) (trimmed after)) := by
  obtain ⟨hlabel, hvalue⟩ := Text.spelled?_extract ascii_colon before after
  rw [fieldAt?, hlabel, hvalue]
  rfl

theorem categoryAt?_append_cons (before after : List Char) :
    categoryAt? (before ++ '.' :: after).utf8Encode before.utf8Encode.size =
      some (if trimmed before = "" then .malformed
        else .category (trimmed before) (trimmed after)) := by
  obtain ⟨hcode, hlabel⟩ := Text.spelled?_extract ascii_point before after
  rw [categoryAt?, hcode, hlabel]
  rfl

/-- The bytes of a line show the same shape as its characters, and no cut goes through one of
them. -/
theorem classifyBytes?_utf8Encode (line : List Char) :
    classifyBytes? line.utf8Encode = some (classify line) := by
  rcases first_separator line with ⟨hcolon, hpoint⟩ | ⟨before, after, hcolon, hpoint, rfl | rfl⟩
  · rw [classify_of_no_separator hcolon hpoint, classifyBytes?,
      Text.byteOffset?_of_not_mem ascii_colon hcolon,
      Text.byteOffset?_of_not_mem ascii_point hpoint]
  · rw [classify_of_colon hcolon hpoint, classifyBytes?,
      Text.byteOffset?_append_cons ascii_colon hcolon,
      Text.byteOffset?_behind ascii_point ascii_colon hpoint (by decide)]
    cases Text.byteOffset? '.' after.utf8Encode with
    | none => exact fieldAt?_append_cons before after
    | some i =>
      have hlt : before.utf8Encode.size < i + (before.utf8Encode.size + 1) := by omega
      simp only [Option.map_some, if_pos hlt]
      exact fieldAt?_append_cons before after
  · rw [classify_of_point hcolon hpoint, classifyBytes?,
      Text.byteOffset?_append_cons ascii_point hpoint,
      Text.byteOffset?_behind ascii_colon ascii_point hcolon (by decide)]
    cases Text.byteOffset? ':' after.utf8Encode with
    | none => exact categoryAt?_append_cons before after
    | some i =>
      have hnot : ¬ i + (before.utf8Encode.size + 1) < before.utf8Encode.size := by omega
      simp only [Option.map_some, if_neg hnot]
      exact categoryAt?_append_cons before after

/-- How lines are written: a part without separators, and whichever separator comes first. -/
inductive Reads : List Char → FeedLine → Prop
  | field {before : List Char} (hcolon : ':' ∉ before) (hpoint : '.' ∉ before)
    (after : List Char) :
    Reads (before ++ ':' :: after) (.field (trimmed before) (trimmed after))
  | category {before : List Char} (hcolon : ':' ∉ before) (hpoint : '.' ∉ before)
    (hcode : ∃ c ∈ before, Text.isBlank c = false) (after : List Char) :
    Reads (before ++ '.' :: after) (.category (trimmed before) (trimmed after))
  | malformed {before : List Char} (hblank : ∀ c ∈ before, Text.isBlank c = true)
    (after : List Char) :
    Reads (before ++ '.' :: after) .malformed
  | other {line : List Char} (hcolon : ':' ∉ line) (hpoint : '.' ∉ line) : Reads line .other

theorem reads_classify (line : List Char) : Reads line (classify line) := by
  rcases first_separator line with ⟨hcolon, hpoint⟩ | ⟨before, after, hcolon, hpoint, rfl | rfl⟩
  · rw [classify_of_no_separator hcolon hpoint]
    exact .other hcolon hpoint
  · rw [classify_of_colon hcolon hpoint]
    exact .field hcolon hpoint after
  · rw [classify_of_point hcolon hpoint]
    split_ifs with hblank
    · exact .malformed (trimmed_eq_empty_iff.mp hblank) after
    · have hcode : ∃ c ∈ before, Text.isBlank c = false := by
        simpa [trimmed_eq_empty_iff] using hblank
      exact .category hcolon hpoint hcode after

theorem classify_of_reads {line : List Char} {shape : FeedLine} (h : Reads line shape) :
    classify line = shape := by
  cases h with
  | field hcolon hpoint after => exact classify_of_colon hcolon hpoint after
  | category hcolon hpoint hcode after =>
    rw [classify_of_point hcolon hpoint, if_neg]
    rw [trimmed_eq_empty_iff]
    obtain ⟨c, hc, hsolid⟩ := hcode
    exact fun hblank => Text.not_mem_of_blank hblank hsolid hc
  | malformed hblank after =>
    have hcolon : ':' ∉ _ := Text.not_mem_of_blank hblank (by decide)
    have hpoint : '.' ∉ _ := Text.not_mem_of_blank hblank (by decide)
    rw [classify_of_point hcolon hpoint, if_pos (trimmed_eq_empty_iff.mpr hblank)]
  | other hcolon hpoint => exact classify_of_no_separator hcolon hpoint

theorem classify_eq_iff {line : List Char} {shape : FeedLine} :
    classify line = shape ↔ Reads line shape :=
  ⟨fun h => h ▸ reads_classify line, classify_of_reads⟩

theorem classify_field_again {line : List Char} {label value : String}
    (h : classify line = .field label value) :
    classify (label.toList ++ ':' :: value.toList) = .field label value := by
  cases classify_eq_iff.mp h with
  | field hcolon hpoint after =>
    rw [classify_of_colon (not_mem_trimmed hcolon) (not_mem_trimmed hpoint), trimmed_trimmed,
      trimmed_trimmed]

theorem classify_category_again {line : List Char} {code label : String}
    (h : classify line = .category code label) :
    classify (code.toList ++ '.' :: label.toList) = .category code label := by
  cases classify_eq_iff.mp h with
  | @category before hcolon hpoint hcode after =>
    have hsolid : trimmed before ≠ "" := by simpa [trimmed_eq_empty_iff] using hcode
    rw [classify_of_point (not_mem_trimmed hcolon) (not_mem_trimmed hpoint), trimmed_trimmed,
      trimmed_trimmed, if_neg hsolid]

/-- A line has just the shape that the grammar gives it, and the grammar gives it one. Found by
their bytes, the separators lie between characters and cut the line in the same parts. A field or
a category written out again is read as it was. -/
theorem feed_line_grammar (line : List Char) :
    (∀ shape, classify line = shape ↔ Reads line shape) ∧
    (∃! shape, Reads line shape) ∧
    classifyBytes? line.utf8Encode = some (classify line) ∧
    (∀ sep ∈ [':', '.'], ∀ i ∈ Text.byteOffset? sep line.utf8Encode,
      (⟨i⟩ : String.Pos.Raw).IsValid (String.ofList line) ∧
        (⟨i + 1⟩ : String.Pos.Raw).IsValid (String.ofList line)) ∧
    (∀ label value, classify line = .field label value →
      classify (label.toList ++ ':' :: value.toList) = .field label value) ∧
    (∀ code label, classify line = .category code label →
      classify (code.toList ++ '.' :: label.toList) = .category code label) := by
  refine ⟨fun shape => classify_eq_iff, ⟨classify line, reads_classify line, ?_⟩,
    classifyBytes?_utf8Encode line, ?_, fun _ _ => classify_field_again,
    fun _ _ => classify_category_again⟩
  · intro shape hshape
    exact (classify_of_reads hshape).symm
  · intro sep hmem i hi
    have hsep : sep.val ≤ 127 := by
      rcases List.mem_pair.mp hmem with rfl | rfl
      · exact ascii_colon
      · exact ascii_point
    exact Text.isValid_of_mem_byteOffset? hsep hi

end FeedLine

end Census
