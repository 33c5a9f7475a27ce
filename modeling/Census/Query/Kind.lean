import Census.Text.Blank

/-!
Kinds of census query. Three kinds can be written; the other four are names held in reserve.
-/

namespace Census.Query

/-- A kind whose name is known but which cannot be written yet. -/
inductive Reserved where
  | mean
  | cross
  | frequencies
  | stats
  deriving DecidableEq, Repr

inductive Kind where
  | areaList
  | counter
  | median
  | reserved (r : Reserved)
  deriving DecidableEq, Repr

namespace Kind

/-- Every kind, in the order in which messages list them. -/
def all : List Kind :=
  [areaList, counter, median, reserved .mean, reserved .cross, reserved .frequencies,
   reserved .stats]

def isSupported : Kind → Bool
  | reserved _ => false
  | _ => true

def name : Kind → String
  | areaList => "arealist"
  | counter => "counter"
  | median => "median"
  | reserved .mean => "mean"
  | reserved .cross => "cross"
  | reserved .frequencies => "frequencies"
  | reserved .stats => "stats"

/-- The place of a kind in `all`. -/
def index (k : Kind) : Nat :=
  all.idxOf k

/-- The kind of exactly this name. -/
def ofName? (s : String) : Option Kind :=
  all.find? fun k => k.name == s

/-- The kind meant by a text as people type it: blanks around it and the case of ASCII letters
do not matter. -/
def ofText? (s : String) : Option Kind :=
  ofName? (String.ofList ((Text.trimChars s.toList).map Char.toLower))

/-- What is said of a text that means no kind. -/
def unknownMessage (s : String) : String :=
  "unknown query kind '" ++ s ++ "'. Valid: " ++ ", ".intercalate (all.map name)

end Kind

end Census.Query
