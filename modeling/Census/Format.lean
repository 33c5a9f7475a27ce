import Census.Json.Reader
import Census.Outline.Reader
import Census.Toml.Reader

/-!
The two formats of structured texts. A JSON text is read as far as it goes, so that the first
fault in it decides; a TOML text is first read to its end.
-/

namespace Census

inductive Format where
  | json
  | toml
  deriving DecidableEq, Repr

/-- Reads a whole text as a value of some type. -/
def Format.read {α : Type} (format : Format) (reader : Manner → Reader α) (s : String) :
    Except ReadError α :=
  match format with
  | json => do
    let reading := Json.read s
    let a ← reader .json reading.outline
    if reading.ends then return a else throw .malformed
  | toml =>
    match Toml.read? s with
    | some outline => reader .toml outline
    | none => .error .malformed

end Census
