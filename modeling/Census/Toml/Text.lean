import Census.Number.Digits

/-!
Texts in a TOML file, from behind their opening marks: basic ones with escapes, literal ones
without, each on one line or over several. Line ends inside a text are read as line feeds.
-/

namespace Census.Toml

/-- Characters that may stand in a text: no controls but the tab. -/
def isTextChar (c : Char) : Bool :=
  c == '\t' || (0x20 ≤ c.toNat && c.toNat != 0x7F)

def isBlank (c : Char) : Bool :=
  c == ' ' || c == '\t'

/-- The character of these hexadecimal digits, if there is one. -/
def scalarValue? (ds : List Char) : Option Char :=
  let n := Number.natOf 16 ds
  if ds.all fun c => (Number.digit? c).isSome then
    if n.isValidChar then some (Char.ofNat n) else none
  else none

/-- The character that a letter after a backslash stands for. -/
def escaped? (c : Char) : Option Char :=
  if c = '"' ∨ c = '\\' then some c
  else if c = 'b' then some '\x08'
  else if c = 't' then some '\t'
  else if c = 'n' then some '\n'
  else if c = 'f' then some '\x0c'
  else if c = 'r' then some '\r'
  else none

/-- Puts a character before the text read behind it. -/
def cons? (c : Option Char) (r : Option (List Char × List Char)) :
    Option (List Char × List Char) :=
  match c, r with
  | some c, some (text, after) => some (c :: text, after)
  | _, _ => none

/-- A basic text on one line. -/
def basic? : List Char → Option (List Char × List Char)
  | [] => none
  | '"' :: cs => some ([], cs)
  | '\\' :: 'u' :: a :: b :: c :: d :: cs => cons? (scalarValue? [a, b, c, d]) (basic? cs)
  | '\\' :: 'U' :: a :: b :: c :: d :: e :: f :: g :: h :: cs =>
    cons? (scalarValue? [a, b, c, d, e, f, g, h]) (basic? cs)
  | '\\' :: c :: cs => cons? (escaped? c) (basic? cs)
  | c :: cs => if isTextChar c ∧ c ≠ '\\' then cons? (some c) (basic? cs) else none

/-- Whether nothing but blanks comes before the end of the line. -/
def endsLine (cs : List Char) : Bool :=
  match cs.dropWhile isBlank with
  | '\n' :: _ => true
  | '\r' :: '\n' :: _ => true
  | _ => false

/-- A basic text over several lines. Behind a backslash at the end of a line, `skipping` blanks
and line ends goes on up to the next character. -/
def multiBasic? (skipping : Bool) : List Char → Option (List Char × List Char)
  | [] => none
  -- Up to two marks right before the closing three belong to the text.
  | '"' :: '"' :: '"' :: '"' :: '"' :: cs => some (['"', '"'], cs)
  | '"' :: '"' :: '"' :: '"' :: cs => some (['"'], cs)
  | '"' :: '"' :: '"' :: cs => some ([], cs)
  | '\r' :: '\n' :: cs =>
    if skipping then multiBasic? true cs else cons? (some '\n') (multiBasic? false cs)
  | '\n' :: cs =>
    if skipping then multiBasic? true cs else cons? (some '\n') (multiBasic? false cs)
  | '\\' :: 'u' :: a :: b :: c :: d :: cs =>
    cons? (scalarValue? [a, b, c, d]) (multiBasic? false cs)
  | '\\' :: 'U' :: a :: b :: c :: d :: e :: f :: g :: h :: cs =>
    cons? (scalarValue? [a, b, c, d, e, f, g, h]) (multiBasic? false cs)
  | '\\' :: c :: cs =>
    if endsLine (c :: cs) then multiBasic? true (c :: cs)
    else cons? (escaped? c) (multiBasic? false cs)
  | c :: cs =>
    if skipping ∧ isBlank c then multiBasic? true cs
    else if isTextChar c ∧ c ≠ '\\' then cons? (some c) (multiBasic? false cs)
    else none

/-- The mark of a literal text. -/
def literalMark : Char := '\x27'

/-- A literal text on one line. -/
def literal? : List Char → Option (List Char × List Char)
  | [] => none
  | c :: cs =>
    if c = literalMark then some ([], cs)
    else if isTextChar c then cons? (some c) (literal? cs)
    else none

/-- A literal text over several lines. -/
def multiLiteral? : List Char → Option (List Char × List Char)
  | [] => none
  | '\x27' :: '\x27' :: '\x27' :: '\x27' :: '\x27' :: cs => some (['\x27', '\x27'], cs)
  | '\x27' :: '\x27' :: '\x27' :: '\x27' :: cs => some (['\x27'], cs)
  | '\x27' :: '\x27' :: '\x27' :: cs => some ([], cs)
  | '\r' :: '\n' :: cs => cons? (some '\n') (multiLiteral? cs)
  | c :: cs =>
    if isTextChar c ∨ c = '\n' then cons? (some c) (multiLiteral? cs) else none

/-- A line end right behind the opening marks does not count. -/
def dropLineEnd : List Char → List Char
  | '\n' :: cs => cs
  | '\r' :: '\n' :: cs => cs
  | cs => cs

theorem eq_some_of_cons? {c : Option Char} {r : Option (List Char × List Char)}
    {text after : List Char} (h : cons? c r = some (text, after)) : ∃ t, r = some (t, after) := by
  unfold cons? at h
  split at h
  · cases h
    exact ⟨_, rfl⟩
  · cases h

theorem length_of_basic? {cs text after : List Char} (h : basic? cs = some (text, after)) :
    after.length < cs.length := by
  fun_induction basic? cs generalizing text with
  | case1 => cases h
  | case2 => simp_all
  | case3 a b c d cs ih =>
    obtain ⟨_, hr⟩ := eq_some_of_cons? h
    have := ih hr
    simp only [List.length_cons]
    omega
  | case4 a b c d e f g i cs ih =>
    obtain ⟨_, hr⟩ := eq_some_of_cons? h
    have := ih hr
    simp only [List.length_cons]
    omega
  | case5 c cs _ _ ih =>
    obtain ⟨_, hr⟩ := eq_some_of_cons? h
    have := ih hr
    simp only [List.length_cons]
    omega
  | case6 c cs _ _ _ _ _ ih =>
    obtain ⟨_, hr⟩ := eq_some_of_cons? h
    have := ih hr
    simp only [List.length_cons]
    omega
  | case7 => cases h

theorem length_of_multiBasic? {b : Bool} {cs text after : List Char}
    (h : multiBasic? b cs = some (text, after)) : after.length < cs.length := by
  fun_induction multiBasic? b cs generalizing text with
  | case1 => cases h
  | case2 => simp_all; omega
  | case3 => simp_all; omega
  | case4 => simp_all; omega
  | case5 =>
    rename_i ih
    have := ih h
    simp only [List.length_cons] at this ⊢
    omega
  | case6 =>
    rename_i ih
    obtain ⟨_, hr⟩ := eq_some_of_cons? h
    have := ih hr
    simp only [List.length_cons]
    omega
  | case7 =>
    rename_i ih
    have := ih h
    simp only [List.length_cons] at this ⊢
    omega
  | case8 =>
    rename_i ih
    obtain ⟨_, hr⟩ := eq_some_of_cons? h
    have := ih hr
    simp only [List.length_cons]
    omega
  | case9 =>
    rename_i ih
    obtain ⟨_, hr⟩ := eq_some_of_cons? h
    have := ih hr
    simp only [List.length_cons]
    omega
  | case10 =>
    rename_i ih
    obtain ⟨_, hr⟩ := eq_some_of_cons? h
    have := ih hr
    simp only [List.length_cons]
    omega
  | case11 =>
    rename_i ih
    have := ih h
    simp only [List.length_cons] at this ⊢
    omega
  | case12 =>
    rename_i ih
    obtain ⟨_, hr⟩ := eq_some_of_cons? h
    have := ih hr
    simp only [List.length_cons]
    omega
  | case13 =>
    rename_i ih
    have := ih h
    simp only [List.length_cons] at this ⊢
    omega
  | case14 =>
    rename_i ih
    obtain ⟨_, hr⟩ := eq_some_of_cons? h
    have := ih hr
    simp only [List.length_cons]
    omega
  | case15 => cases h

theorem length_of_literal? {cs text after : List Char} (h : literal? cs = some (text, after)) :
    after.length < cs.length := by
  fun_induction literal? cs generalizing text with
  | case1 => cases h
  | case2 => simp_all
  | case3 c cs _ _ ih =>
    obtain ⟨_, hr⟩ := eq_some_of_cons? h
    have := ih hr
    simp only [List.length_cons]
    omega
  | case4 => cases h

theorem length_of_multiLiteral? {cs text after : List Char}
    (h : multiLiteral? cs = some (text, after)) : after.length < cs.length := by
  fun_induction multiLiteral? cs generalizing text with
  | case1 => cases h
  | case2 => simp_all; omega
  | case3 => simp_all; omega
  | case4 => simp_all; omega
  | case5 cs ih =>
    obtain ⟨_, hr⟩ := eq_some_of_cons? h
    have := ih hr
    simp only [List.length_cons]
    omega
  | case6 c cs _ _ _ _ _ ih =>
    obtain ⟨_, hr⟩ := eq_some_of_cons? h
    have := ih hr
    simp only [List.length_cons]
    omega
  | case7 => cases h

theorem length_dropLineEnd (cs : List Char) : (dropLineEnd cs).length ≤ cs.length := by
  unfold dropLineEnd
  split
  · simp
  · simp only [List.length_cons]
    omega
  · exact Nat.le_refl _

end Census.Toml
