import Census.Query.Kind

/-!
Why a query cannot be written.
-/

namespace Census.Query

inductive Error where
  | emptyAreaLevel
  | emptyVariables
  | emptyCountedEntity
  /-- An area filter that names `keys` area types instead of one. -/
  | areaFilterShape (keys : Nat)
  | emptyAreaCodes (areaType : String)
  | reserved (r : Reserved)
  deriving DecidableEq, Repr

def Error.message : Error → String
  | emptyAreaLevel => "area level must not be empty"
  | emptyVariables => "variable list must not be empty"
  | emptyCountedEntity => "counted entity must not be empty"
  | areaFilterShape keys => "area filter must name exactly one area type, got " ++ toString keys
  | emptyAreaCodes areaType => "area filter for '" ++ areaType ++ "' lists no area codes"
  | reserved r =>
    "query kind '" ++ (Kind.reserved r).name ++ "' is reserved and not yet implemented"

end Census.Query
