import Mathlib
import Census.Proofs.JsonReading

/-!
A value that is spread over lines is read like the same value on one line: it has the same tokens,
since blanks between tokens leave no trace.
-/

namespace Census.Json

/-- What is read of a text starts behind the blanks in front of it. -/
theorem tokens_of_skipSpace_eq {cs cs' : List Char} (h : skipSpace cs = skipSpace cs') :
    tokens cs = tokens cs' := by
  cases hfront : front? (skipSpace cs') with
  | none => rw [tokens_eq_nil hfront, tokens_eq_nil (h ▸ hfront)]
  | some p => rw [tokens_eq_cons hfront, tokens_eq_cons (h ▸ hfront)]

theorem tokens_blanks_append {blanks : List Char} (h : ∀ c ∈ blanks, isSpace c = true)
    (cs : List Char) : tokens (blanks ++ cs) = tokens cs :=
  tokens_of_skipSpace_eq (List.dropWhile_append_of_pos h)

theorem tokens_newline (level : Nat) (cs : List Char) :
    tokens (Json.newline level ++ cs) = tokens cs := by
  apply tokens_blanks_append
  intro c hc
  rcases List.mem_cons.mp hc with rfl | hc
  · rfl
  · rw [List.eq_of_mem_replicate hc]
    rfl

theorem tokens_colon_blank (cs : List Char) :
    tokens ([':', ' '] ++ cs) = .colon :: tokens cs := by
  have hspace : ∀ c ∈ [' '], isSpace c = true := by simp [isSpace]
  rw [← tokens_blanks_append hspace cs]
  exact tokens_colon ([' '] ++ cs)

mutual

theorem tokens_prettyChars (level : Nat) (v : Json) (rest : List Char) :
    tokens (v.prettyChars level ++ rest) = written v ++ tokens rest := by
  match v with
  | .null => exact tokens_compactChars .null rest
  | .bool b => exact tokens_compactChars (.bool b) rest
  | .text s => exact tokens_compactChars (.text s) rest
  | .list [] => exact tokens_compactChars (.list []) rest
  | .record [] => exact tokens_compactChars (.record []) rest
  | .list (v :: later) =>
    rw [Json.prettyChars, written, List.append_assoc, List.append_assoc, List.cons_append,
      tokens_openList, tokens_prettyItems, tokens_newline, List.singleton_append, tokens_closeList]
    simp
  | .record (e :: later) =>
    rw [Json.prettyChars, written, List.append_assoc, List.append_assoc, List.cons_append,
      tokens_openRecord, tokens_prettyEntries, tokens_newline, List.singleton_append,
      tokens_closeRecord]
    simp

theorem tokens_prettyItems (level : Nat) (items : List Json) (rest : List Char) :
    tokens (Json.prettyItems level items ++ rest) = writtenItems items ++ tokens rest := by
  match items with
  | [] => rfl
  | [v] =>
    rw [Json.prettyItems, List.append_assoc, tokens_newline, tokens_prettyChars, writtenItems]
  | v :: w :: later =>
    rw [Json.prettyItems, writtenItems, List.append_assoc, List.append_assoc, tokens_newline,
      tokens_prettyChars, List.cons_append, tokens_comma, tokens_prettyItems]
    · simp
    · simp
    · simp

theorem tokens_prettyEntries (level : Nat) (entries : List (String × Json)) (rest : List Char) :
    tokens (Json.prettyEntries level entries ++ rest) = writtenEntries entries ++ tokens rest := by
  match entries with
  | [] => rfl
  | [(key, v)] =>
    rw [Json.prettyEntries, writtenEntries, List.append_assoc, List.append_assoc, List.append_assoc,
      tokens_newline, tokens_quoted, tokens_colon_blank, tokens_prettyChars]
    rfl
  | (key, v) :: e :: later =>
    rw [Json.prettyEntries, writtenEntries, List.append_assoc, List.append_assoc, List.append_assoc,
      List.append_assoc, tokens_newline, tokens_quoted, tokens_colon_blank, tokens_prettyChars,
      List.cons_append, tokens_comma, tokens_prettyEntries]
    · simp
    · simp
    · simp

end

theorem read_pretty {v : Json} (h : depth v ≤ maxDepth) : read v.pretty = ⟨v.outline, true⟩ := by
  have htokens := tokens_prettyChars 0 v []
  rw [List.append_nil, tokens_nil, List.append_nil] at htokens
  apply read_of_tokens h
  rw [Json.pretty, String.toList_ofList, htokens]

/-- The end of the last line belongs to no value. -/
theorem read_line {v : Json} (h : depth v ≤ maxDepth) {s : String}
    (hs : ∀ rest, tokens (s.toList ++ rest) = written v ++ tokens rest) :
    read (s ++ "\n") = ⟨v.outline, true⟩ := by
  have hend : tokens ['\n'] = [] := by
    have hblank := tokens_newline 0 []
    rwa [tokens_nil] at hblank
  apply read_of_tokens h
  have htokens := hs ['\n']
  rw [hend, List.append_nil] at htokens
  rw [String.toList_append]
  exact htokens

theorem read_pretty_line {v : Json} (h : depth v ≤ maxDepth) :
    read (v.pretty ++ "\n") = ⟨v.outline, true⟩ := by
  apply read_line h
  rw [Json.pretty, String.toList_ofList]
  exact tokens_prettyChars 0 v

theorem read_compact_line {v : Json} (h : depth v ≤ maxDepth) :
    read (v.compact ++ "\n") = ⟨v.outline, true⟩ := by
  apply read_line h
  rw [Json.compact, String.toList_ofList]
  exact tokens_compactChars v

end Census.Json
