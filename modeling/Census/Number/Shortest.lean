import Census.Number.Binary64

/-!
The fewest decimal digits that still name a magnitude: of all decimals that round to it, one on
the coarsest decimal grid, and there the nearest.
-/

namespace Census.Number

/-- The number `0.d₁d₂… * 10 ^ point`, without zeros at the end of the digits. -/
structure Decimal where
  digits : List Char
  point : Int
  deriving DecidableEq, Repr

/-- Which of two decimals is taken that are equally near. -/
inductive Tie where
  | toEven
  | up
  deriving DecidableEq, Repr

/-- Drops zeros from the end of `k * 10 ^ s`. At most `fuel` of them can be there. -/
def stripZeros : Nat → Nat → Int → Nat × Int
  | 0, k, s => (k, s)
  | fuel + 1, k, s => if k % 10 = 0 then stripZeros fuel (k / 10) (s + 1) else (k, s)

namespace Decimal

/-- The decimal `k * 10 ^ s`. -/
def ofScaled (k : Nat) (s : Int) : Decimal :=
  let (k, s) := stripZeros 17 k s
  let digits := Nat.toDigits 10 k
  ⟨digits, digits.length + s⟩

def zero : Decimal := ⟨['0'], 1⟩

end Decimal

namespace Binary64

/-- The reals that round to a magnitude, as numerators over `den`. The ends belong to it if it is
`closed`. -/
structure Interval where
  low : Nat
  value : Nat
  high : Nat
  den : Nat
  closed : Bool

def interval (x : Binary64) : Interval :=
  let (up, down) := power 2 (x.exponent - 2)
  -- Below a power of two the next magnitude down is only half a unit away.
  let narrow := x.mantissa = fullMantissa ∧ -1074 < x.exponent
  { low := (4 * x.mantissa - if narrow then 1 else 2) * up
    value := 4 * x.mantissa * up
    high := (4 * x.mantissa + 2) * up
    den := down
    closed := x.mantissa % 2 = 0 }

/-- Whether `num / den` lies in the interval. -/
def Interval.contains (i : Interval) (num den : Nat) : Bool :=
  if i.closed then i.low * den ≤ num * i.den ∧ num * i.den ≤ i.high * den
  else i.low * den < num * i.den ∧ num * i.den < i.high * den

/-- The place of the decimal point: the least `p` with the value below `10 ^ p`. -/
def Interval.place (i : Interval) : Int :=
  if i.den ≤ i.value then (Nat.toDigits 10 (i.value / i.den)).length
  else
    match (List.range 330).find? fun j => i.den ≤ i.value * Nat.pow 10 j with
    | some j => 1 - j
    | none => 0

/-- Whether `num / den` is nearer to the integer above it than to the one below. -/
def isNearAbove (tie : Tie) (num den : Nat) : Bool :=
  let twice := 2 * (num % den)
  den < twice ∨ twice = den ∧ (tie = .up ∨ num / den % 2 = 1)

/-- The nearest decimal with its last digit at `10 ^ s` that lies in the interval. -/
def Interval.hit? (i : Interval) (tie : Tie) (s : Int) : Option Decimal :=
  let (up, down) := power 10 s
  let k := i.value * down / (i.den * up)
  let fits (k : Nat) : Bool := i.contains (k * up) down
  if fits (k + 1) ∧ (isNearAbove tie (i.value * down) (i.den * up) ∨ ¬fits k) then
    some (.ofScaled (k + 1) s)
  else if fits k then some (.ofScaled k s)
  else none

/-- Seventeen digits always suffice. -/
def shortest (tie : Tie) (x : Binary64) : Decimal :=
  if x.isZero then .zero
  else
    let i := x.interval
    ((List.range 17).findSome? fun (n : Nat) => i.hit? tie (i.place - (n + 1))).getD .zero

end Binary64

end Census.Number
