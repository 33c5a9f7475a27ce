import Census.Number.Digits
import Census.Number.Text
import Census.Outline.Basic

/-!
Numbers in a JSON text. A whole number that fits a signed or an unsigned word stays whole; any
other is a binary64 number, worked out from the digits that fit an unsigned word.
-/

namespace Census.Json

open Number (digitValue natOf wordSize)

/-- A number as it is written: sign, digits before the point, digits after it, exponent. -/
structure Numeral where
  negative : Bool
  whole : List Char
  fraction : Option (List Char)
  exponent : Option Int
  deriving DecidableEq, Repr

/-- The digits at the front, and what follows them. -/
def digits (cs : List Char) : List Char × List Char :=
  (cs.takeWhile Char.isDigit, cs.dropWhile Char.isDigit)

/-- At least one digit. -/
def digits? (cs : List Char) : Option (List Char × List Char) :=
  match digits cs with
  | ([], _) => none
  | p => some p

/-- The digits before the point: a zero stands alone. -/
def wholeDigits? (cs : List Char) : Option (List Char × List Char) :=
  match digits? cs with
  | some ('0' :: _ :: _, _) => none
  | other => other

/-- The fraction, if a point follows. -/
def fraction? : List Char → Option (Option (List Char) × List Char)
  | '.' :: cs => (digits? cs).map fun p => (some p.1, p.2)
  | cs => some (none, cs)

/-- The exponent after its letter. -/
def signedDigits? : List Char → Option (Int × List Char)
  | '+' :: cs => (digits? cs).map fun p => ((natOf 10 p.1 : Int), p.2)
  | '-' :: cs => (digits? cs).map fun p => (-(natOf 10 p.1 : Int), p.2)
  | cs => (digits? cs).map fun p => ((natOf 10 p.1 : Int), p.2)

/-- The exponent, if its letter follows. -/
def exponent? : List Char → Option (Option Int × List Char)
  | [] => some (none, [])
  | c :: cs =>
    if c = 'e' ∨ c = 'E' then (signedDigits? cs).map fun p => (some p.1, p.2)
    else some (none, c :: cs)

def unsigned? (negative : Bool) (cs : List Char) : Option (Numeral × List Char) := do
  let (whole, cs) ← wholeDigits? cs
  let (fraction, cs) ← fraction? cs
  let (exponent, cs) ← exponent? cs
  return (⟨negative, whole, fraction, exponent⟩, cs)

/-- The number at the front, and what follows it. -/
def numeral? : List Char → Option (Numeral × List Char)
  | '-' :: cs => unsigned? true cs
  | cs => unsigned? false cs

/-- Takes in digits as long as the significand fits an unsigned word, and counts those left. -/
def absorb (significand : Nat) : List Char → Nat × Nat
  | [] => (significand, 0)
  | c :: cs =>
    let next := significand * 10 + digitValue c
    if next < wordSize then absorb next cs else (significand, cs.length + 1)

/-- Significand and power of ten of a numeral. -/
def Numeral.parts (n : Numeral) : Nat × Int :=
  let (s, dropped) := absorb 0 n.whole
  let fraction := n.fraction.getD []
  let (s, left) := absorb s fraction
  (s, (dropped : Int) - ((fraction.length : Int) - left) + n.exponent.getD 0)

/-- Numbers by place from a hundred-thousandth up to ten to the sixteenth, a tie going to the
even digit. -/
def realStyle : Number.Style := ⟨some ⟨16, -5⟩, .toEven⟩

/-- The number as a binary64 number, if it is in range. -/
def Numeral.real (n : Numeral) : Outline :=
  match Number.Binary64.ofParts n.parts.1 n.parts.2 with
  | some x => .real (Number.shown realStyle n.negative x)
  | none => .unreadable

def Numeral.outline (n : Numeral) : Outline :=
  if n.fraction = none ∧ n.exponent = none then
    let k := natOf 10 n.whole
    if n.negative then (if k ≠ 0 ∧ 2 * k ≤ wordSize then .whole (-k) else n.real)
    else if k < wordSize then .whole k
    else n.real
  else n.real

theorem length_of_digits? {cs ds after : List Char} (h : digits? cs = some (ds, after)) :
    after.length < cs.length := by
  have hp : digits cs = (ds, after) ∧ ds ≠ [] := by
    unfold digits? at h
    split at h
    · cases h
    · rename_i hne
      cases h
      exact ⟨rfl, fun h0 => hne (cs.dropWhile Char.isDigit) (by simp [digits, h0])⟩
  have hlen := congrArg List.length (List.takeWhile_append_dropWhile (p := Char.isDigit) (l := cs))
  simp only [digits, Prod.mk.injEq] at hp
  rw [hp.1.1, hp.1.2] at hlen
  have := List.length_pos_iff.2 hp.2
  simp only [List.length_append] at hlen
  omega

theorem length_of_wholeDigits? {cs ds after : List Char}
    (h : wholeDigits? cs = some (ds, after)) : after.length < cs.length := by
  unfold wholeDigits? at h
  split at h
  · cases h
  · exact length_of_digits? h

theorem length_of_fraction? {cs after : List Char} {f : Option (List Char)}
    (h : fraction? cs = some (f, after)) : after.length ≤ cs.length := by
  unfold fraction? at h
  split at h
  · obtain ⟨p, hp, he⟩ := Option.map_eq_some_iff.1 h
    have := length_of_digits? hp
    simp_all
    omega
  · simp_all

theorem length_of_signedDigits? {cs after : List Char} {e : Int}
    (h : signedDigits? cs = some (e, after)) : after.length < cs.length := by
  unfold signedDigits? at h
  split at h <;>
    (obtain ⟨p, hp, he⟩ := Option.map_eq_some_iff.1 h
     have := length_of_digits? hp
     simp_all
     try omega)

theorem length_of_exponent? {cs after : List Char} {e : Option Int}
    (h : exponent? cs = some (e, after)) : after.length ≤ cs.length := by
  unfold exponent? at h
  split at h
  · simp_all
  · split at h
    · obtain ⟨p, hp, he⟩ := Option.map_eq_some_iff.1 h
      have := length_of_signedDigits? hp
      simp_all
      omega
    · simp_all

theorem length_of_unsigned? {b : Bool} {cs after : List Char} {n : Numeral}
    (h : unsigned? b cs = some (n, after)) : after.length < cs.length := by
  simp only [unsigned?, Option.bind_eq_bind, Option.pure_def, Option.bind_eq_some_iff,
    Prod.exists, Option.some.injEq, Prod.mk.injEq] at h
  obtain ⟨w, cs1, hw, f, cs2, hf, e, cs3, he, -, rfl⟩ := h
  have h1 := length_of_wholeDigits? hw
  have h2 := length_of_fraction? hf
  have h3 := length_of_exponent? he
  omega

theorem length_of_numeral? {cs after : List Char} {n : Numeral}
    (h : numeral? cs = some (n, after)) : after.length < cs.length := by
  unfold numeral? at h
  split at h
  · have := length_of_unsigned? h
    simp_all
    omega
  · exact length_of_unsigned? h

end Census.Json
