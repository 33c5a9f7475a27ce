import Census.Toml.Text

/-!
The tokens of a TOML text. Blanks and comments are dropped, line ends are kept; where no token
can be read the list ends with `bad`.
-/

namespace Census.Toml

inductive Token where
  | newline
  | equals
  | comma
  | openList
  | closeList
  | openTable
  | closeTable
  /-- A run of letters, digits, points and signs: part of a key, or a value. -/
  | word (cs : List Char)
  /-- A quoted text. One that may go over several lines cannot be a key. -/
  | text (s : String) (multi : Bool)
  | bad

def isBareChar (c : Char) : Bool :=
  c.isAlphanum || c == '_' || c == '-'

def isWordChar (c : Char) : Bool :=
  isBareChar c || c == '.' || c == '+'

/-- Blanks, then a comment up to the end of its line. -/
def skipBlank (cs : List Char) : List Char :=
  match cs.dropWhile isBlank with
  | '#' :: cs => cs.dropWhile isTextChar
  | cs => cs

/-- The token of a quoted text and what follows it. -/
def textToken (multi : Bool) : Option (List Char × List Char) → Token × List Char
  | some (text, after) => (.text (String.ofList text) multi, after)
  | none => (.bad, [])

def wordToken (c : Char) (cs : List Char) : Token × List Char :=
  if isWordChar c then (.word (c :: cs.takeWhile isWordChar), cs.dropWhile isWordChar)
  else (.bad, [])

/-- The token at the front of a text that starts with neither a blank nor a comment. -/
def front? : List Char → Option (Token × List Char)
  | [] => none
  | '\n' :: cs => some (.newline, cs)
  | '\r' :: '\n' :: cs => some (.newline, cs)
  | '=' :: cs => some (.equals, cs)
  | ',' :: cs => some (.comma, cs)
  | '[' :: cs => some (.openList, cs)
  | ']' :: cs => some (.closeList, cs)
  | '\x7b' :: cs => some (.openTable, cs)
  | '\x7d' :: cs => some (.closeTable, cs)
  | '"' :: '"' :: '"' :: cs => some (textToken true (multiBasic? false (dropLineEnd cs)))
  | '"' :: cs => some (textToken false (basic? cs))
  | '\x27' :: '\x27' :: '\x27' :: cs => some (textToken true (multiLiteral? (dropLineEnd cs)))
  | '\x27' :: cs => some (textToken false (literal? cs))
  | c :: cs => some (wordToken c cs)

theorem length_skipBlank (cs : List Char) : (skipBlank cs).length ≤ cs.length := by
  have h := (List.dropWhile_suffix isBlank (l := cs)).length_le
  unfold skipBlank
  split
  · rename_i rest heq
    have := (List.dropWhile_suffix isTextChar (l := rest)).length_le
    rw [heq, List.length_cons] at h
    omega
  · exact h

theorem length_of_textToken (multi : Bool) (r : Option (List Char × List Char)) {n : Nat}
    (h : ∀ text after, r = some (text, after) → after.length < n) :
    (textToken multi r).2.length ≤ n := by
  unfold textToken
  split
  · exact Nat.le_of_lt (h _ _ rfl)
  · exact Nat.zero_le n

theorem length_of_wordToken (c : Char) (cs : List Char) :
    (wordToken c cs).2.length ≤ cs.length := by
  unfold wordToken
  split
  · exact (List.dropWhile_suffix isWordChar).length_le
  · exact Nat.zero_le _

theorem length_of_front? {cs after : List Char} {t : Token} (h : front? cs = some (t, after)) :
    after.length < cs.length := by
  unfold front? at h
  split at h <;> simp only [Option.some.injEq, Prod.mk.injEq, reduceCtorEq] at h
  case h_10 cs' =>
    have := length_of_textToken true (multiBasic? false (dropLineEnd cs'))
      fun _ _ hr => length_of_multiBasic? hr
    simp only [h] at this
    have := length_dropLineEnd cs'
    simp only [List.length_cons]
    omega
  case h_11 cs' _ =>
    have := length_of_textToken false (basic? cs') fun _ _ hr => length_of_basic? hr
    simp only [h] at this
    simp only [List.length_cons]
    omega
  case h_12 cs' =>
    have := length_of_textToken true (multiLiteral? (dropLineEnd cs'))
      fun _ _ hr => length_of_multiLiteral? hr
    simp only [h] at this
    have := length_dropLineEnd cs'
    simp only [List.length_cons]
    omega
  case h_13 cs' _ =>
    have := length_of_textToken false (literal? cs') fun _ _ hr => length_of_literal? hr
    simp only [h] at this
    simp only [List.length_cons]
    omega
  case h_14 c cs' _ _ _ _ _ _ _ _ _ _ _ _ =>
    have := length_of_wordToken c cs'
    simp only [h] at this
    simp only [List.length_cons]
    omega
  all_goals
    rw [← h.2]
    simp only [List.length_cons]
    omega

/-- The tokens of a text. -/
def tokens (cs : List Char) : List Token :=
  match _ : front? (skipBlank cs) with
  | none => []
  | some (t, after) => t :: tokens after
termination_by cs.length
decreasing_by
  exact Nat.lt_of_lt_of_le (length_of_front? (by assumption)) (length_skipBlank cs)

end Census.Toml
