import Mathlib
import Census.Cli.Run
import Census.Proofs.DictionaryJson

/-!
What is printed as JSON can be read: no command comes to a page that is nested too deeply, and a
reader finds in it the value that was written.
-/

namespace Census

open Json (depth maxDepth)

theorem depth_fieldsJson_le (fields : List (String × String)) :
    depth (fieldsJson fields) ≤ 2 :=
  Nat.succ_le_succ (Json.depthItems_map_le (fun p => Json.depth_texts_le [p.1, p.2]) fields)

theorem outline_fieldsJson (fields : List (String × String)) :
    (fieldsJson fields).outline = .list (fields.map fun p => .list [.text p.1, .text p.2]) := by
  rw [fieldsJson, Json.outline, Json.outlines_eq_map, List.map_map]
  rfl

namespace Cli

/-- A success that leaves nothing behind but a value, printed as JSON. -/
structure Outcome.Prints (o : Outcome) (value : Outline) : Prop where
  exit : o.exit = 0
  stdout : Json.read o.stdout = ⟨value, true⟩
  stderr : o.stderr = ""

def Page.Readable (p : Page) : Prop :=
  depth p.json ≤ maxDepth

theorem Page.Readable.prints {p : Page} (h : p.Readable) (quiet : Bool) :
    (Outcome.ofResult .json quiet (.ok p)).Prints p.json.outline :=
  ⟨rfl, Json.read_pretty_line h, rfl⟩

theorem readable_queryPage (kind : Query.Kind) (text : String) : (queryPage kind text).Readable :=
  have hdepth : depth (queryPage kind text).json = 1 := rfl
  Nat.le_trans (Nat.le_of_eq hdepth) (by decide)

theorem readable_dictionaryPage (d : Dictionary) : (dictionaryPage d).Readable :=
  d.depth_buildJson_le

theorem readable_identifiersPage (identifiers : List String) :
    (identifiersPage identifiers).Readable :=
  Nat.le_trans (Json.depth_texts_le identifiers) (by decide)

theorem readable_formPage (fields : List (String × String)) : (formPage fields).Readable :=
  Nat.le_trans (depth_fieldsJson_le fields) (by decide)

end Cli

end Census
