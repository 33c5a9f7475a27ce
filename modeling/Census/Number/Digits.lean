/-!
Digits and the numbers they spell.
-/

namespace Census.Number

/-- The value of a digit up to `f`, in either case. -/
def digit? (c : Char) : Option Nat :=
  if '0' ≤ c ∧ c ≤ '9' then some (c.toNat - '0'.toNat)
  else if 'a' ≤ c ∧ c ≤ 'f' then some (c.toNat - 'a'.toNat + 10)
  else if 'A' ≤ c ∧ c ≤ 'F' then some (c.toNat - 'A'.toNat + 10)
  else none

def digitValue (c : Char) : Nat :=
  (digit? c).getD 0

/-- How many values an unsigned word of 64 bits has. -/
def wordSize : Nat := 0x10000000000000000

/-- The number spelled by digits, the most significant first. -/
def natOf (base : Nat) (ds : List Char) : Nat :=
  ds.foldl (fun n c => n * base + digitValue c) 0

end Census.Number
