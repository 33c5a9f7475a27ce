import Census.Json.Number
import Census.Json.Quoted

/-!
The tokens of a JSON text. Where no token can be read the list ends with `bad`.
-/

namespace Census.Json

inductive Token where
  | openRecord
  | closeRecord
  | openList
  | closeList
  | colon
  | comma
  /-- A quoted text, or nothing if it spells no characters. -/
  | text (s : Option String)
  /-- A number or a word. -/
  | atom (o : Outline)
  | bad

def isSpace (c : Char) : Bool :=
  c == ' ' || c == '\n' || c == '\t' || c == '\r'

def skipSpace (cs : List Char) : List Char :=
  cs.dropWhile isSpace

/-- The quoted text whose opening mark has been read. -/
def textToken (cs : List Char) : Token × List Char :=
  match pieces? cs with
  | some (ps, after) => (.text ((spell? ps).map String.ofList), after)
  | none => (.bad, [])

def numberToken (cs : List Char) : Token × List Char :=
  match numeral? cs with
  | some (n, after) => (.atom n.outline, after)
  | none => (.bad, [])

/-- The token at the front of a text that does not start with a blank. -/
def front? : List Char → Option (Token × List Char)
  | [] => none
  | '\x7b' :: cs => some (.openRecord, cs)
  | '\x7d' :: cs => some (.closeRecord, cs)
  | '[' :: cs => some (.openList, cs)
  | ']' :: cs => some (.closeList, cs)
  | ':' :: cs => some (.colon, cs)
  | ',' :: cs => some (.comma, cs)
  | '"' :: cs => some (textToken cs)
  | 'n' :: 'u' :: 'l' :: 'l' :: cs => some (.atom .null, cs)
  | 't' :: 'r' :: 'u' :: 'e' :: cs => some (.atom (.bool true), cs)
  | 'f' :: 'a' :: 'l' :: 's' :: 'e' :: cs => some (.atom (.bool false), cs)
  | c :: cs => some (numberToken (c :: cs))

theorem length_of_textToken (cs : List Char) : (textToken cs).2.length ≤ cs.length := by
  unfold textToken
  split
  · exact Nat.le_of_lt (length_of_pieces? (by assumption))
  · simp

theorem length_of_numberToken (c : Char) (cs : List Char) :
    (numberToken (c :: cs)).2.length ≤ cs.length := by
  unfold numberToken
  split
  · exact Nat.le_of_lt_succ (length_of_numeral? (by assumption))
  · simp

theorem length_of_front? {cs after : List Char} {t : Token} (h : front? cs = some (t, after)) :
    after.length < cs.length := by
  unfold front? at h
  split at h <;> simp only [Option.some.injEq, Prod.mk.injEq, reduceCtorEq] at h
  case h_8 cs' =>
    have := length_of_textToken cs'
    rw [h] at this
    simpa using Nat.lt_succ_of_le this
  case h_12 c cs' _ _ _ _ _ _ _ _ _ _ =>
    have := length_of_numberToken c cs'
    rw [h] at this
    simpa using Nat.lt_succ_of_le this
  all_goals
    rw [← h.2]
    simp only [List.length_cons]
    omega

theorem length_skipSpace (cs : List Char) : (skipSpace cs).length ≤ cs.length :=
  (List.dropWhile_suffix isSpace).length_le

/-- The tokens of a text. -/
def tokens (cs : List Char) : List Token :=
  match _ : front? (skipSpace cs) with
  | none => []
  | some (t, after) => t :: tokens after
termination_by cs.length
decreasing_by
  exact Nat.lt_of_lt_of_le (length_of_front? (by assumption)) (length_skipSpace cs)

end Census.Json
