/-!
Why a dictionary cannot be built. Rows and lines are counted from one.
-/

namespace Census

inductive DictionaryError where
  | missingEntityCode (row : Nat)
  | duplicateEntity (name : String) (row : Nat)
  | duplicateVariable (entity name : String) (row : Nat)
  | trailingEntityGeographic (name : String)
  | unknownEntity (entity : String) (line : Nat)
  | unknownVariable (entity name : String) (line : Nat)
  /-- The supplier of the metadata failed. -/
  | source (reason : String)
  deriving DecidableEq, Repr

def DictionaryError.message : DictionaryError → String
  | missingEntityCode row => "metadata row " ++ toString row ++ ": missing entity code"
  | duplicateEntity name row =>
    "entity '" ++ name ++ "' is declared by more than one row group (row " ++ toString row ++ ")"
  | duplicateVariable entity name row =>
    "variable '" ++ entity ++ "." ++ name ++ "' is declared twice (row " ++ toString row ++ ")"
  | trailingEntityGeographic name =>
    "trailing entity '" ++ name ++
      "' declares geographic variables but the layout fixes it as a data entity"
  | unknownEntity entity line =>
    "category text line " ++ toString line ++ ": unknown entity '" ++ entity ++ "'"
  | unknownVariable entity name line =>
    "category text line " ++ toString line ++ ": unknown variable '" ++ entity ++ "." ++ name ++ "'"
  | source reason => "metadata source error: " ++ reason

end Census
