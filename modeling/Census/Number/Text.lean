import Census.Number.Shortest

/-!
How a decimal is written out: always by place, or by place within bounds and with an exponent
beyond them. A decimal that is written by place has at least one digit on each side of the point.
-/

namespace Census.Number

/-- The largest point and the smallest one up to which a number is written by place. -/
structure Bounds where
  largest : Int
  smallest : Int
  deriving DecidableEq, Repr

/-- How magnitudes are written. -/
structure Style where
  /-- Without bounds every number is written by place. -/
  bounds : Option Bounds
  tie : Tie
  deriving DecidableEq, Repr

def zeros (n : Int) : List Char :=
  List.replicate n.toNat '0'

/-- The decimal by place. -/
def Decimal.plain (d : Decimal) : List Char :=
  if d.point ≤ 0 then ['0', '.'] ++ zeros (-d.point) ++ d.digits
  else if d.digits.length ≤ d.point then
    d.digits ++ zeros (d.point - d.digits.length) ++ ['.', '0']
  else d.digits.take d.point.toNat ++ ['.'] ++ d.digits.drop d.point.toNat

/-- An exponent behind its mark, always with a sign. -/
def exponent (n : Int) : List Char :=
  ['e', if n < 0 then '-' else '+'] ++ Nat.toDigits 10 n.natAbs

/-- The decimal with one digit before the point and an exponent. -/
def Decimal.scientific (d : Decimal) : List Char :=
  let fraction :=
    match d.digits.tail with
    | [] => []
    | later => '.' :: later
  d.digits.take 1 ++ fraction ++ exponent (d.point - 1)

/-- The decimal by place if its point is within the bounds. -/
def Decimal.chars (bounds : Option Bounds) (d : Decimal) : List Char :=
  match bounds with
  | none => d.plain
  | some b => if b.smallest < d.point ∧ d.point ≤ b.largest then d.plain else d.scientific

/-- A signed magnitude by its fewest digits. -/
def shown (style : Style) (negative : Bool) (x : Binary64) : String :=
  String.ofList ((if negative then ['-'] else []) ++ (x.shortest style.tie).chars style.bounds)

end Census.Number
