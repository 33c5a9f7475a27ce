/-!
Finite binary64 magnitudes in exact arithmetic: rounding a quotient to nearest, ties to even,
and the product and quotient of two magnitudes, rounded the same way.
-/

namespace Census.Number

/-- The number `mantissa * 2 ^ exponent`. -/
structure Binary64 where
  mantissa : Nat
  exponent : Int
  deriving DecidableEq, Repr

/-- The quotient `num / den` rounded to an integer, a half going to the even neighbour. -/
def roundQuotient (num den : Nat) : Nat :=
  let q := num / den
  let twice := 2 * (num % den)
  if den < twice ∨ twice = den ∧ q % 2 = 1 then q + 1 else q

namespace Binary64

def zero : Binary64 := ⟨0, -1074⟩

def isZero (x : Binary64) : Bool := x.mantissa == 0

/-- The least mantissa of a magnitude that uses all its bits: the 52nd power of two. -/
def fullMantissa : Nat := 0x10000000000000

/-- A power as a numerator and a denominator. -/
def power (base : Nat) (e : Int) : Nat × Nat :=
  (Nat.pow base e.toNat, Nat.pow base (-e).toNat)

/-- The exponent of the last bit of a number as large as `num / den`. -/
def lastBit (num den : Nat) : Int :=
  -- The quotient lies between the powers of two with exponents `k - 1` and `k + 1`.
  let k : Int := num.log2 - den.log2
  let (up, down) := power 2 k
  max (-1074) (if num * down < den * up then k - 53 else k - 52)

/-- The magnitude nearest to `num / den`, unless that is out of range. -/
def ofRatio (num den : Nat) : Option Binary64 :=
  if num = 0 then some zero
  else
    let e := lastBit num den
    let (up, down) := power 2 e
    let m := roundQuotient (num * down) (den * up)
    let x : Binary64 :=
      if m = 2 * fullMantissa then ⟨fullMantissa, e + 1⟩ else ⟨m, e⟩
    if x.exponent ≤ 971 then some x else none

/-- Numerator and denominator of a magnitude. -/
def ratio (x : Binary64) : Nat × Nat :=
  let (up, down) := power 2 x.exponent
  (x.mantissa * up, down)

def mul (x y : Binary64) : Option Binary64 :=
  ofRatio (x.ratio.1 * y.ratio.1) (x.ratio.2 * y.ratio.2)

def div (x y : Binary64) : Option Binary64 :=
  ofRatio (x.ratio.1 * y.ratio.2) (x.ratio.2 * y.ratio.1)

def powTen (n : Nat) : Option Binary64 :=
  ofRatio (Nat.pow 10 n) 1

/-- Divides by `10 ^ n`, in steps of at most `10 ^ 308`, each of them rounded. -/
def shrink (x : Binary64) (n : Nat) : Option Binary64 :=
  if x.isZero then some x
  else
    match powTen (min n 308) with
    | none => none
    | some p =>
      match x.div p with
      | none => none
      | some y => if n ≤ 308 then some y else y.shrink (n - 308)
termination_by n

/-- Multiplies by `10 ^ n`, rounding the power and the product. -/
def grow (x : Binary64) (n : Nat) : Option Binary64 :=
  if n ≤ 308 then do x.mul (← powTen n)
  else if x.isZero then some x
  else none

/-- `significand * 10 ^ exponent` by one rounding of the significand, then one for each power. -/
def ofParts (significand : Nat) (exponent : Int) : Option Binary64 := do
  let x ← ofRatio significand 1
  if 0 ≤ exponent then x.grow exponent.toNat else x.shrink (-exponent).toNat

/-- `significand * 10 ^ exponent` rounded once. What is far out of range is not worked out. -/
def ofDecimal (significand : Nat) (exponent : Int) : Option Binary64 :=
  let place := (Nat.toDigits 10 significand).length + exponent
  if significand = 0 ∨ place < -400 then some zero
  else if 400 < place then none
  else
    let (up, down) := power 10 exponent
    ofRatio (significand * up) down

end Binary64

end Census.Number
