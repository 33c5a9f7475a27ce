/-!
The form by which the categories of variables are asked for.
-/

namespace Census

structure CategoryRequest where
  /-- The name of the database. -/
  base : String := "CPV2010B"
  /-- The page template on the server. -/
  main : String := "WebServerMain.inl"
  userCode : String := "xxUsuarioxx"
  deriving DecidableEq, Repr

/-- The fields of the form, with one `VARIABLE` per identifier. -/
def CategoryRequest.fields (r : CategoryRequest) (identifiers : List String) :
    List (String × String) :=
  [("MAIN", r.main), ("BASE", r.base), ("CODIGO", r.userCode), ("ITEM", "DICCATVIV"),
   ("MODE", "LISTVAR"), ("DICTIONARY", "HTML")]
    ++ identifiers.map (fun v => ("VARIABLE", v))
    ++ [("SUBMIT", "Ejecutar")]

end Census
