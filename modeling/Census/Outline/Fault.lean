import Census.Outline.Basic
import Census.Query.Error
import Census.Text.Shown

/-!
Why a text cannot be read as a value of some type: it is not well written, or what it writes
does not fit. `Fault.message` words the second case.
-/

namespace Census

/-- What a type asks for. -/
inductive Expected where
  | string
  | boolean
  | sequence
  | map
  | unit
  | struct (name : String)
  | request
  | variantName
  deriving DecidableEq, Repr

def Expected.words : Expected → String
  | string => "a string"
  | boolean => "a boolean"
  | sequence => "a sequence"
  | map => "a map"
  | unit => "unit"
  | struct name => "struct " ++ name
  | request => "internally tagged enum QueryRequest"
  | variantName => "variant identifier"

/-- A rightly written value that does not fit. -/
inductive Fault where
  | missingField (name : String)
  | duplicateField (name : String)
  | unknownField (name : String) (expected : List String)
  | unknownVariant (name : String) (expected : List String)
  | invalidType (found : String) (expected : Expected)
  /-- A list that lacks a required item of a struct of `fields` items. -/
  | shortStruct (length : Nat) (name : String) (fields : Nat)
  /-- A list of which only `used` items have a meaning. -/
  | surplusItems (length used : Nat)
  /-- Neither a text nor a list of texts. -/
  | notCodes
  | filter (e : Query.Error)
  /-- A table that names no variant, or more than one. -/
  | variantCount (many : Bool)
  /-- Neither a text nor a table where a variant is wanted. -/
  | notVariant
  /-- A variant that comes with a table or a list that is not empty. -/
  | filledVariant
  /-- A variant that comes with some other value. -/
  | variantValue (found : String)
  deriving DecidableEq, Repr

/-- Names in quotation marks, as alternatives. -/
def alternatives : List String → String
  | [a] => "`" ++ a ++ "`"
  | [a, b] => "`" ++ a ++ "` or `" ++ b ++ "`"
  | names => "one of " ++ ", ".intercalate (names.map fun n => "`" ++ n ++ "`")

/-- A number of items. -/
def itemCount (n : Nat) : String :=
  toString n ++ if n = 1 then " element in sequence" else " elements in sequence"

def Fault.message : Fault → String
  | missingField name => "missing field `" ++ name ++ "`"
  | duplicateField name => "duplicate field `" ++ name ++ "`"
  | unknownField name expected =>
    "unknown field `" ++ name ++ "`, expected " ++ alternatives expected
  | unknownVariant name expected =>
    "unknown variant `" ++ name ++ "`, expected " ++ alternatives expected
  | invalidType found expected => "invalid type: " ++ found ++ ", expected " ++ expected.words
  | shortStruct length name fields =>
    "invalid length " ++ toString length ++ ", expected struct " ++ name ++ " with "
      ++ toString fields ++ (if fields = 1 then " element" else " elements")
  | surplusItems length used =>
    "invalid length " ++ toString length ++ ", expected " ++ itemCount used
  | notCodes => "data did not match any variant of untagged enum AreaCodes"
  | filter e => e.message
  | variantCount many =>
    "wanted exactly 1 element, " ++ if many then "more than 1 element" else "found 0 elements"
  | notVariant => "wanted string or table"
  | filledVariant => "expected empty table"
  | variantValue found => "expected table, found " ++ found

inductive ReadError where
  /-- The text is not well written. -/
  | malformed
  | unfit (fault : Fault)
  deriving DecidableEq, Repr

/-- How a message names the value found; nothing is found where a text breaks off. -/
def Outline.found? : Outline → Option String
  | null => some "null"
  | bool b => some ("boolean `" ++ (if b then "true" else "false") ++ "`")
  | whole n => some ("integer `" ++ toString n ++ "`")
  | real shown => some ("floating point `" ++ shown ++ "`")
  | text s => some ("string " ++ Text.showText s)
  | list _ => some "sequence"
  | record _ => some "map"
  | unreadable => none
  | broken => none

/-- The error of meeting this value where another type is asked for. -/
def Outline.mismatch (o : Outline) (expected : Expected) : ReadError :=
  match o.found? with
  | some found => .unfit (.invalidType found expected)
  | none => .malformed

end Census
