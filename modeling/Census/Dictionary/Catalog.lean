import Census.Dictionary.Row
import Census.Dictionary.Feed

/-!
The full catalog: the dictionary that the rows of a source declare, with the categories of the
feed that the source gives for the variables that can be queried.
-/

namespace Census

/-- A supplier of both feeds. Either may fail. -/
structure Source where
  rows : Except DictionaryError (List Row)
  /-- The category feed that covers these identifiers. -/
  categoryText : List String → Except DictionaryError String

/-- A run against a source: the variables asked for, if it came to that, and the outcome. -/
structure Catalog where
  asked : Option (List String)
  outcome : Except DictionaryError Dictionary

/-- The dictionary declared by the rows of a source. -/
def Source.declared (source : Source) (layout : Layout) : Except DictionaryError Dictionary := do
  Dictionary.ofRows layout (← source.rows)

/-- The dictionary with the categories its source gives for it. -/
def Source.filled (source : Source) (layout : Layout) (d : Dictionary) :
    Except DictionaryError Dictionary := do
  let text ← source.categoryText d.queryable
  let (filled, _) ← d.attach layout text
  return filled

/-- Reads the rows, then asks once for the feed of all variables that can be queried. -/
def Source.catalog (source : Source) (layout : Layout) : Catalog :=
  match source.declared layout with
  | .error e => ⟨none, .error e⟩
  | .ok d => ⟨some d.queryable, source.filled layout d⟩

end Census
