import Census.Number.Digits
import Census.Number.Text
import Census.Outline.Basic

/-!
Words of a TOML text that are values: truth values, whole numbers in four bases, real numbers.
An underscore may stand between two digits.
-/

namespace Census.Toml

/-- The digits without their underscores, if they are digits of this kind. -/
def separated? (isDigit : Char → Bool) : List Char → Option (List Char)
  | [] => none
  | [c] => if isDigit c then some [c] else none
  | c :: '_' :: cs => if isDigit c then (separated? isDigit cs).map (c :: ·) else none
  | c :: cs => if isDigit c then (separated? isDigit cs).map (c :: ·) else none

def isHexDigit (c : Char) : Bool := (Number.digit? c).isSome

def isOctalDigit (c : Char) : Bool := '0' ≤ c && c ≤ '7'

def isBinaryDigit (c : Char) : Bool := c == '0' || c == '1'

def decimalDigits? (cs : List Char) : Option (List Char) :=
  separated? Char.isDigit cs

/-- Decimal digits of which a zero stands alone. -/
def wholeDigits? (cs : List Char) : Option (List Char) :=
  match decimalDigits? cs with
  | some ('0' :: _ :: _) => none
  | other => other

/-- A sign, if there is one. -/
def sign (cs : List Char) : Bool × List Char :=
  match cs with
  | '+' :: cs => (false, cs)
  | '-' :: cs => (true, cs)
  | cs => (false, cs)

/-- A whole number that fits a signed word. -/
def fit? (n : Int) : Option Outline :=
  if -Number.wordSize ≤ 2 * n ∧ 2 * n < Number.wordSize then some (.whole n) else none

def based? (base : Nat) (isDigit : Char → Bool) (cs : List Char) : Option Outline := do
  fit? (Number.natOf base (← separated? isDigit cs))

def whole? : List Char → Option Outline
  | '0' :: 'x' :: cs => based? 16 isHexDigit cs
  | '0' :: 'o' :: cs => based? 8 isOctalDigit cs
  | '0' :: 'b' :: cs => based? 2 isBinaryDigit cs
  | cs => do
    let (negative, cs) := sign cs
    let n : Int := Number.natOf 10 (← wholeDigits? cs)
    fit? (if negative then -n else n)

/-- Numbers by place, a tie going up. -/
def realStyle : Number.Style := ⟨none, .up⟩

/-- A number out of range is refused above and infinite below. -/
def realOf (negative : Bool) (x : Option Number.Binary64) : Option Outline :=
  match x with
  | some x => some (.real (Number.shown realStyle negative x))
  | none => if negative then some (.real "-inf") else none

def isExponentMark (c : Char) : Bool := c == 'e' || c == 'E'

/-- The power of ten after the mark of an exponent. -/
def power? : List Char → Option Int
  | [] => some 0
  | _ :: cs => do
    let (negative, cs) := sign cs
    let n : Int := Number.natOf 10 (← decimalDigits? cs)
    return if negative then -n else n

/-- The digits after the point, if there is one. -/
def fraction? : List Char → Option (List Char)
  | [] => some []
  | _ :: cs => decimalDigits? cs

/-- A number with a point, an exponent, or both. -/
def real? (cs : List Char) : Option Outline := do
  guard (cs.any fun c => c == '.' || isExponentMark c)
  let (negative, cs) := sign cs
  let exponent := cs.dropWhile fun c => !isExponentMark c
  let mantissa := cs.takeWhile fun c => !isExponentMark c
  let whole ← wholeDigits? (mantissa.takeWhile (· != '.'))
  let fraction ← fraction? (mantissa.dropWhile (· != '.'))
  let power ← power? exponent
  realOf negative
    (Number.Binary64.ofDecimal (Number.natOf 10 (whole ++ fraction)) (power - fraction.length))

/-- Numbers that are no decimals. -/
def special? (cs : List Char) : Option Outline :=
  match sign cs with
  | (negative, ['i', 'n', 'f']) => some (.real (if negative then "-inf" else "inf"))
  | (_, ['n', 'a', 'n']) => some (.real "NaN")
  | _ => none

def truth? : List Char → Option Outline
  | ['t', 'r', 'u', 'e'] => some (.bool true)
  | ['f', 'a', 'l', 's', 'e'] => some (.bool false)
  | _ => none

/-- The value of a word. -/
def scalar? (cs : List Char) : Option Outline :=
  truth? cs <|> whole? cs <|> real? cs <|> special? cs

end Census.Toml
