import Census.Number.Digits

/-!
Texts between quotation marks: how JSON writes them and how it reads them back. Half a
surrogate pair is rightly written but names no character.
-/

namespace Census.Json

def hexDigit (n : Nat) : Char :=
  Nat.digitChar n

/-- How a character stands in a quoted text. -/
def escape (c : Char) : List Char :=
  if c = '"' then ['\\', '"']
  else if c = '\\' then ['\\', '\\']
  else if c = '\n' then ['\\', 'n']
  else if c = '\t' then ['\\', 't']
  else if c = '\r' then ['\\', 'r']
  else if c = '\x08' then ['\\', 'b']
  else if c = '\x0c' then ['\\', 'f']
  else if c.toNat < 0x20 then
    ['\\', 'u', '0', '0', hexDigit (c.toNat / 16), hexDigit (c.toNat % 16)]
  else [c]

def quote (cs : List Char) : List Char :=
  '"' :: cs.flatMap escape ++ ['"']

/-- One piece of a quoted text: a character, or a sixteen-bit unit given by its digits. -/
inductive Piece where
  | char (c : Char)
  | unit (n : Nat)
  deriving DecidableEq, Repr

/-- The unit that four digits give. -/
def unit? (a b c d : Char) : Option Nat := do
  let a ← Number.digit? a
  let b ← Number.digit? b
  let c ← Number.digit? c
  let d ← Number.digit? d
  return ((a * 16 + b) * 16 + c) * 16 + d

/-- The character that a letter after a backslash stands for. -/
def escaped? (c : Char) : Option Char :=
  if c = '"' ∨ c = '\\' ∨ c = '/' then some c
  else if c = 'n' then some '\n'
  else if c = 't' then some '\t'
  else if c = 'r' then some '\r'
  else if c = 'b' then some '\x08'
  else if c = 'f' then some '\x0c'
  else none

/-- The pieces up to the closing mark, and what follows it. -/
def pieces? : List Char → Option (List Piece × List Char)
  | [] => none
  | '"' :: rest => some ([], rest)
  | '\\' :: 'u' :: a :: b :: c :: d :: rest =>
    match unit? a b c d, pieces? rest with
    | some n, some (ps, after) => some (.unit n :: ps, after)
    | _, _ => none
  | '\\' :: c :: rest =>
    match escaped? c, pieces? rest with
    | some e, some (ps, after) => some (.char e :: ps, after)
    | _, _ => none
  | c :: rest =>
    if c = '\\' ∨ c.toNat < 0x20 then none
    else (pieces? rest).map fun p => (.char c :: p.1, p.2)

def isHighHalf (n : Nat) : Bool := 0xD800 ≤ n && n < 0xDC00

def isLowHalf (n : Nat) : Bool := 0xDC00 ≤ n && n < 0xE000

/-- The text that pieces spell; two halves of a pair must stand together. -/
def spell? : List Piece → Option (List Char)
  | [] => some []
  | .char c :: later => (spell? later).map (c :: ·)
  | .unit high :: .unit low :: later =>
    if isHighHalf high then
      if isLowHalf low then
        (spell? later).map (Char.ofNat (0x10000 + (high - 0xD800) * 0x400 + (low - 0xDC00)) :: ·)
      else none
    else if isLowHalf high then none
    else (spell? (.unit low :: later)).map (Char.ofNat high :: ·)
  | .unit n :: later =>
    if isHighHalf n || isLowHalf n then none
    else (spell? later).map (Char.ofNat n :: ·)

theorem length_of_pieces? {cs after : List Char} {ps : List Piece}
    (h : pieces? cs = some (ps, after)) : after.length < cs.length := by
  fun_induction pieces? cs generalizing ps after with
  | case1 => cases h
  | case2 rest => simp_all
  | case3 a b c d rest n ps' after' hs hn ih =>
    have := ih hs
    simp_all
    omega
  | case4 => cases h
  | case5 c rest _ e ps' after' hs he ih =>
    have := ih hs
    simp_all
    omega
  | case6 => cases h
  | case7 => cases h
  | case8 c rest _ _ _ _ ih =>
    obtain ⟨p, hp, he⟩ := Option.map_eq_some_iff.1 h
    have := ih hp
    simp_all
    omega

end Census.Json
