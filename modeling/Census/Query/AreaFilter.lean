import Census.Query.Error

/-!
The restriction of a query to some areas of one area type.
-/

namespace Census.Query

/-- One code or several, as a caller may give them. -/
inductive AreaCodes where
  | one (code : String)
  | many (codes : List String)
  deriving DecidableEq, Repr

def AreaCodes.toList : AreaCodes → List String
  | one code => [code]
  | many codes => codes

/-- Codes of one area type, at least one of them. -/
structure AreaFilter where
  areaType : String
  codes : List String
  codes_ne_nil : codes ≠ []
  deriving DecidableEq, Repr

namespace AreaFilter

def make (areaType : String) (codes : AreaCodes) : Except Error AreaFilter :=
  if h : codes.toList = [] then .error (.emptyAreaCodes areaType)
  else .ok ⟨areaType, codes.toList, h⟩

/-- The filter given as entries `area type, codes`. Among entries of one area type the last
counts, and they must all be of one area type. -/
def ofEntries (entries : List (String × AreaCodes)) : Except Error AreaFilter :=
  let keys := (entries.map Prod.fst).eraseDups.length
  match entries.getLast? with
  | some (areaType, codes) =>
    if keys = 1 then make areaType codes else .error (.areaFilterShape keys)
  | none => .error (.areaFilterShape keys)

theorem make_codes (f : AreaFilter) : make f.areaType (.many f.codes) = .ok f := by
  simp [make, AreaCodes.toList, f.codes_ne_nil]

end AreaFilter

end Census.Query
