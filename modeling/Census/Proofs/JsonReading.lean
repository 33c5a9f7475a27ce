import Mathlib
import Census.Json.Reader
import Census.Json.Value

/-!
What is written as JSON is read back: a quoted text as the text, a value as its outline.
-/

namespace Census.Json

/-! ### Quoted texts -/

/-- The piece spells the character. Only control characters are given by a unit. -/
inductive Piece.Spells : Piece → Char → Prop
  | char (c : Char) : Spells (.char c) c
  | unit {c : Char} (h : c.toNat < 0x20) : Spells (.unit c.toNat) c

theorem unit?_hexDigit :
    ∀ n < 0x20, unit? '0' '0' (hexDigit (n / 16)) (hexDigit (n % 16)) = some n := by
  decide

theorem pieces?_plain {c : Char} (hquote : c ≠ '"') (hslash : c ≠ '\\')
    (hcontrol : ¬ c.toNat < 0x20) (rest : List Char) :
    pieces? (c :: rest) = (pieces? rest).map fun p => (.char c :: p.1, p.2) := by
  conv_lhs => unfold pieces?
  split <;> simp_all

theorem pieces?_letter {c e : Char} (hunit : c ≠ 'u') (h : escaped? c = some e)
    (rest : List Char) :
    pieces? ('\\' :: c :: rest) = (pieces? rest).map fun p => (.char e :: p.1, p.2) := by
  have hnot : ∀ a b d f later, c = 'u' → rest = a :: b :: d :: f :: later → False :=
    fun _ _ _ _ _ hu => absurd hu hunit
  rw [pieces?, h]
  · cases pieces? rest <;> rfl
  · exact hnot

/-- However a character is written, it is one piece that spells it. -/
theorem pieces?_escape (c : Char) : ∃ p : Piece, p.Spells c ∧
    ∀ rest, pieces? (escape c ++ rest) = (pieces? rest).map fun q => (p :: q.1, q.2) := by
  have hletter {e : Char} (letter : Char) (hunit : letter ≠ 'u') (h : escaped? letter = some e)
      (hescape : escape e = ['\\', letter]) : ∃ p : Piece, p.Spells e ∧
        ∀ rest, pieces? (escape e ++ rest) = (pieces? rest).map fun q => (p :: q.1, q.2) :=
    ⟨.char e, .char e, fun rest => by rw [hescape]; exact pieces?_letter hunit h rest⟩
  by_cases hspecial : c ∈ ['"', '\\', '\n', '\t', '\r', '\x08', '\x0c']
  · simp only [List.mem_cons, List.not_mem_nil, or_false] at hspecial
    rcases hspecial with rfl | rfl | rfl | rfl | rfl | rfl | rfl
    · exact hletter '"' (by decide) (by decide) (by decide)
    · exact hletter '\\' (by decide) (by decide) (by decide)
    · exact hletter 'n' (by decide) (by decide) (by decide)
    · exact hletter 't' (by decide) (by decide) (by decide)
    · exact hletter 'r' (by decide) (by decide) (by decide)
    · exact hletter 'b' (by decide) (by decide) (by decide)
    · exact hletter 'f' (by decide) (by decide) (by decide)
  · simp only [List.mem_cons, List.not_mem_nil, or_false, not_or] at hspecial
    obtain ⟨hquote, hslash, hline, htab, hreturn, hback, hfeed⟩ := hspecial
    by_cases hcontrol : c.toNat < 0x20
    · refine ⟨.unit c.toNat, .unit hcontrol, fun rest => ?_⟩
      have hescape : escape c =
          ['\\', 'u', '0', '0', hexDigit (c.toNat / 16), hexDigit (c.toNat % 16)] := by
        simp [escape, hquote, hslash, hline, htab, hreturn, hback, hfeed, hcontrol]
      rw [hescape]
      simp only [List.cons_append, List.nil_append, pieces?, unit?_hexDigit _ hcontrol]
      cases pieces? rest <;> rfl
    · refine ⟨.char c, .char c, fun rest => ?_⟩
      have hescape : escape c = [c] := by
        simp [escape, hquote, hslash, hline, htab, hreturn, hback, hfeed, hcontrol]
      rw [hescape]
      exact pieces?_plain hquote hslash hcontrol rest

theorem pieces?_escaped (cs : List Char) : ∃ ps, List.Forall₂ Piece.Spells ps cs ∧
    ∀ rest, pieces? (cs.flatMap escape ++ '"' :: rest) = some (ps, rest) := by
  induction cs with
  | nil => exact ⟨[], .nil, fun rest => rfl⟩
  | cons c cs ih =>
    obtain ⟨p, hp, hpiece⟩ := pieces?_escape c
    obtain ⟨ps, hps, hpieces⟩ := ih
    refine ⟨p :: ps, .cons hp hps, fun rest => ?_⟩
    rw [List.flatMap_cons, List.append_assoc, hpiece, hpieces]
    rfl

/-- A unit that is no half of a pair is a character by itself, whatever comes next. -/
theorem spell?_unit {n : Nat} (hhigh : isHighHalf n = false) (hlow : isLowHalf n = false)
    (later : List Piece) :
    spell? (.unit n :: later) = (spell? later).map (Char.ofNat n :: ·) := by
  cases later with
  | nil => simp [spell?, hhigh, hlow]
  | cons q later => cases q <;> simp [spell?, hhigh, hlow]

theorem spell?_of_spells {ps : List Piece} {cs : List Char}
    (h : List.Forall₂ Piece.Spells ps cs) : spell? ps = some cs := by
  have hhalf {n : Nat} (hn : n < 0x20) : isHighHalf n = false ∧ isLowHalf n = false := by
    simp only [isHighHalf, isLowHalf, Bool.and_eq_false_iff, decide_eq_false_iff_not]
    omega
  induction h with
  | nil => rfl
  | @cons p c ps cs hp hps ih =>
    cases hp with
    | char c => rw [spell?, ih, Option.map_some]
    | unit hcontrol =>
      obtain ⟨hhigh, hlow⟩ := hhalf hcontrol
      rw [spell?_unit hhigh hlow, ih, Option.map_some, Char.ofNat_toNat]

/-- A quoted text is read as the text, up to its closing mark. -/
theorem textToken_escaped (s : String) (rest : List Char) :
    textToken (s.toList.flatMap escape ++ '"' :: rest) = (.text (some s), rest) := by
  obtain ⟨ps, hps, hpieces⟩ := pieces?_escaped s.toList
  rw [textToken, hpieces]
  simp [spell?_of_spells hps]

/-! ### Tokens -/

mutual

/-- The tokens that a value is written with. -/
def written : Json → List Token
  | .null => [.atom .null]
  | .bool b => [.atom (.bool b)]
  | .text s => [.text (some s)]
  | .list items => .openList :: (writtenItems items ++ [.closeList])
  | .record entries => .openRecord :: (writtenEntries entries ++ [.closeRecord])

def writtenItems : List Json → List Token
  | [] => []
  | [v] => written v
  | v :: later => written v ++ .comma :: writtenItems later

def writtenEntries : List (String × Json) → List Token
  | [] => []
  | [(key, v)] => .text (some key) :: .colon :: written v
  | (key, v) :: later =>
    .text (some key) :: .colon :: (written v ++ .comma :: writtenEntries later)

end

theorem writtenItems_cons {items : List Json} (hne : items ≠ []) (v : Json) :
    writtenItems (v :: items) = written v ++ .comma :: writtenItems items := by
  cases items with
  | nil => exact absurd rfl hne
  | cons w items => rfl

theorem writtenEntries_cons {entries : List (String × Json)} (hne : entries ≠ []) (key : String)
    (v : Json) :
    writtenEntries ((key, v) :: entries) =
      .text (some key) :: .colon :: (written v ++ .comma :: writtenEntries entries) := by
  cases entries with
  | nil => exact absurd rfl hne
  | cons e entries => rfl

theorem exists_writtenItems {items : List Json} (hne : items ≠ []) :
    ∃ v ts, writtenItems items = written v ++ ts := by
  match items with
  | [] => exact absurd rfl hne
  | [v] => exact ⟨v, [], (List.append_nil _).symm⟩
  | v :: w :: items => exact ⟨v, _, writtenItems_cons (List.cons_ne_nil w items) v⟩

theorem exists_writtenEntries {entries : List (String × Json)} (hne : entries ≠ []) :
    ∃ key ts, writtenEntries entries = .text (some key) :: ts := by
  match entries with
  | [] => exact absurd rfl hne
  | [(key, v)] => exact ⟨key, _, rfl⟩
  | (key, v) :: e :: entries =>
    exact ⟨key, _, writtenEntries_cons (List.cons_ne_nil e entries) key v⟩

theorem tokens_eq_nil {cs : List Char} (h : front? (skipSpace cs) = none) : tokens cs = [] := by
  rw [tokens]
  split
  · rfl
  · rename_i hsome
    rw [h] at hsome
    cases hsome

theorem tokens_eq_cons {cs after : List Char} {t : Token}
    (h : front? (skipSpace cs) = some (t, after)) : tokens cs = t :: tokens after := by
  rw [tokens]
  split
  · rename_i hnone
    rw [h] at hnone
    cases hnone
  · rename_i t' after' hsome
    rw [h] at hsome
    obtain ⟨rfl, rfl⟩ := Prod.mk.inj (Option.some.inj hsome)
    rfl

theorem tokens_of_front? {cs after : List Char} {t : Token} (hspace : skipSpace cs = cs)
    (h : front? cs = some (t, after)) : tokens cs = t :: tokens after :=
  tokens_eq_cons (hspace.symm ▸ h)

theorem tokens_nil : tokens [] = [] :=
  tokens_eq_nil rfl

section Marks

variable (cs : List Char)

theorem tokens_openList : tokens ('[' :: cs) = .openList :: tokens cs :=
  tokens_of_front? rfl rfl

theorem tokens_closeList : tokens (']' :: cs) = .closeList :: tokens cs :=
  tokens_of_front? rfl rfl

theorem tokens_openRecord : tokens ('\x7b' :: cs) = .openRecord :: tokens cs :=
  tokens_of_front? rfl rfl

theorem tokens_closeRecord : tokens ('\x7d' :: cs) = .closeRecord :: tokens cs :=
  tokens_of_front? rfl rfl

theorem tokens_colon : tokens (':' :: cs) = .colon :: tokens cs :=
  tokens_of_front? rfl rfl

theorem tokens_comma : tokens (',' :: cs) = .comma :: tokens cs :=
  tokens_of_front? rfl rfl

end Marks

theorem tokens_quoted (s : String) (rest : List Char) :
    tokens (quoted s ++ rest) = .text (some s) :: tokens rest := by
  have hquoted : quoted s ++ rest = '"' :: (s.toList.flatMap escape ++ '"' :: rest) := by
    simp [quoted, quote]
  rw [hquoted]
  apply tokens_of_front? rfl
  exact congrArg some (textToken_escaped s rest)

mutual

theorem tokens_compactChars (v : Json) (rest : List Char) :
    tokens (v.compactChars ++ rest) = written v ++ tokens rest := by
  cases v with
  | null => exact tokens_of_front? rfl rfl
  | bool b =>
    cases b with
    | true => exact tokens_of_front? rfl rfl
    | false => exact tokens_of_front? rfl rfl
  | text s =>
    rw [Json.compactChars, written, tokens_quoted]
    rfl
  | list items =>
    rw [Json.compactChars, written, List.append_assoc, List.singleton_append, List.cons_append,
      tokens_openList, tokens_compactItems, tokens_closeList]
    simp
  | record entries =>
    rw [Json.compactChars, written, List.append_assoc, List.singleton_append, List.cons_append,
      tokens_openRecord, tokens_compactEntries, tokens_closeRecord]
    simp

theorem tokens_compactItems (items : List Json) (rest : List Char) :
    tokens (Json.compactItems items ++ rest) = writtenItems items ++ tokens rest := by
  cases items with
  | nil => rfl
  | cons v later =>
    cases later with
    | nil => exact tokens_compactChars v rest
    | cons w later =>
      rw [Json.compactItems, writtenItems, List.append_assoc, tokens_compactChars,
        List.cons_append, tokens_comma, tokens_compactItems]
      · simp
      · simp
      · simp

theorem tokens_compactEntries (entries : List (String × Json)) (rest : List Char) :
    tokens (Json.compactEntries entries ++ rest) = writtenEntries entries ++ tokens rest := by
  cases entries with
  | nil => rfl
  | cons e later =>
    obtain ⟨key, v⟩ := e
    cases later with
    | nil =>
      rw [Json.compactEntries, writtenEntries, List.append_assoc, tokens_quoted, List.cons_append,
        tokens_colon, tokens_compactChars]
      rfl
    | cons f later =>
      rw [Json.compactEntries, writtenEntries, List.append_assoc, List.append_assoc, tokens_quoted,
        List.cons_append, tokens_colon, tokens_compactChars, List.cons_append, tokens_comma,
        tokens_compactEntries]
      · simp
      · simp
      · simp

end

/-! ### The stack -/

mutual

/-- How deep lists and records are nested in a value. -/
def depth : Json → Nat
  | .null | .bool _ | .text _ => 0
  | .list items => depthItems items + 1
  | .record entries => depthEntries entries + 1

def depthItems : List Json → Nat
  | [] => 0
  | v :: later => max (depth v) (depthItems later)

def depthEntries : List (String × Json) → Nat
  | [] => 0
  | (_, v) :: later => max (depth v) (depthEntries later)

end

theorem run_of_step {p q : Place} {t : Token} (h : p.step t = some q) (later : List Token) :
    run p (t :: later) = run q later := by
  rw [run, h]

/-- No value starts with the end of a list. -/
theorem run_firstItem (up : List Frame) (v : Json) (later : List Token) :
    run (.firstItem up) (written v ++ later) =
      run (.value (.list [] :: up)) (written v ++ later) := by
  cases v <;> rfl

theorem sealed_of_lt {up : List Frame} (h : up.length < maxDepth) (o : Outline) :
    sealed up o = o :=
  if_pos h

mutual

theorem run_value (v : Json) (up : List Frame) (later : List Token)
    (h : up.length + depth v ≤ maxDepth) :
    run (.value up) (written v ++ later) = run (.done v.outline up) later := by
  cases v with
  | null => rfl
  | bool b => rfl
  | text s => rfl
  | list items =>
    have hdepth : up.length + 1 + depthItems items ≤ maxDepth := by
      rw [depth] at h
      omega
    have hsealed (o : Outline) : sealed up o = o := sealed_of_lt (by omega) o
    rw [written, List.cons_append, List.append_assoc, Json.outline]
    by_cases hne : items = []
    · subst hne
      rw [run_of_step rfl, writtenItems, List.nil_append, List.singleton_append,
        run_of_step rfl, hsealed]
      rfl
    · have hfirst : run (.firstItem up) (writtenItems items ++ ([.closeList] ++ later)) =
          run (.value (.list [] :: up)) (writtenItems items ++ .closeList :: later) := by
        obtain ⟨v, ts, hts⟩ := exists_writtenItems hne
        rw [hts, List.append_assoc, run_firstItem]
        simp
      rw [run_of_step rfl, hfirst, run_items items hne [] up later hdepth]
      rfl
  | record entries =>
    have hdepth : up.length + 1 + depthEntries entries ≤ maxDepth := by
      rw [depth] at h
      omega
    have hsealed (o : Outline) : sealed up o = o := sealed_of_lt (by omega) o
    rw [written, List.cons_append, List.append_assoc, Json.outline]
    by_cases hne : entries = []
    · subst hne
      rw [run_of_step rfl, writtenEntries, List.nil_append, List.singleton_append,
        run_of_step rfl, hsealed]
      rfl
    · have hfirst : run (.firstKey up) (writtenEntries entries ++ ([.closeRecord] ++ later)) =
          run (.key [] up) (writtenEntries entries ++ .closeRecord :: later) := by
        obtain ⟨key, ts, hts⟩ := exists_writtenEntries hne
        rw [hts]
        rfl
      rw [run_of_step rfl, hfirst, run_entries entries hne [] up later hdepth]
      rfl

/-- The items behind those that are held already. -/
theorem run_items (items : List Json) (hne : items ≠ []) (held : List Outline)
    (up : List Frame) (later : List Token) (h : up.length + 1 + depthItems items ≤ maxDepth) :
    run (.value (.list held :: up)) (writtenItems items ++ .closeList :: later) =
      run (.done (.list (held.reverse ++ Json.outlines items)) up) later := by
  have hsealed (o : Outline) : sealed up o = o := sealed_of_lt (by omega) o
  cases items with
  | nil => exact absurd rfl hne
  | cons v items =>
    rw [depthItems] at h
    have hv : (Frame.list held :: up).length + depth v ≤ maxDepth := by
      rw [List.length_cons]
      omega
    by_cases hlast : items = []
    · subst hlast
      rw [writtenItems, run_value v _ _ hv, run_of_step rfl, hsealed]
      simp [Json.outlines]
    · rw [writtenItems_cons hlast, List.append_assoc, run_value v _ _ hv, List.cons_append,
        run_of_step rfl, run_items items hlast _ up later (by omega)]
      simp [Json.outlines]

theorem run_entries (entries : List (String × Json)) (hne : entries ≠ [])
    (held : List (Option String × Outline)) (up : List Frame) (later : List Token)
    (h : up.length + 1 + depthEntries entries ≤ maxDepth) :
    run (.key held up) (writtenEntries entries ++ .closeRecord :: later) =
      run (.done (.record (held.reverse ++ Json.entryOutlines entries)) up) later := by
  have hsealed (o : Outline) : sealed up o = o := sealed_of_lt (by omega) o
  cases entries with
  | nil => exact absurd rfl hne
  | cons e entries =>
    obtain ⟨key, v⟩ := e
    rw [depthEntries] at h
    have hv : (Frame.record held (some key) :: up).length + depth v ≤ maxDepth := by
      rw [List.length_cons]
      omega
    by_cases hlast : entries = []
    · subst hlast
      rw [writtenEntries, List.cons_append, List.cons_append, run_of_step rfl, run_of_step rfl,
        run_value v _ _ hv, run_of_step rfl, hsealed]
      simp [Json.entryOutlines]
    · rw [writtenEntries_cons hlast, List.cons_append, List.cons_append, List.append_assoc,
        run_of_step rfl, run_of_step rfl, run_value v _ _ hv, List.cons_append, run_of_step rfl,
        run_entries entries hlast _ up later (by omega)]
      simp [Json.entryOutlines]

end

/-- A text that has the tokens of a value is read as the value, unless that is nested too deeply. -/
theorem read_of_tokens {v : Json} (h : depth v ≤ maxDepth) {s : String}
    (htokens : tokens s.toList = written v) : read s = ⟨v.outline, true⟩ := by
  have hrun := run_value v [] [] (by simpa using h)
  rw [List.append_nil] at hrun
  rw [read, htokens, hrun]
  rfl

theorem read_compact {v : Json} (h : depth v ≤ maxDepth) : read v.compact = ⟨v.outline, true⟩ := by
  have htokens := tokens_compactChars v []
  rw [List.append_nil, tokens_nil, List.append_nil] at htokens
  apply read_of_tokens h
  rw [Json.compact, String.toList_ofList, htokens]

end Census.Json
