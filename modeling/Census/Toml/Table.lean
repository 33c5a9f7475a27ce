import Census.Outline.Basic

/-!
Tables while a TOML text is read. A table remembers how it came about, because that decides
which later lines may add to it: no key is given twice and no table is opened twice.
-/

namespace Census.Toml

inductive Origin where
  /-- By a header of its own. -/
  | header
  /-- By a header of a table inside it. -/
  | implied
  /-- By a dotted key. -/
  | dotted
  deriving DecidableEq, Repr

inductive Node where
  | value (o : Outline)
  | table (origin : Origin) (entries : List (String × Node))
  deriving Repr

abbrev Entries := List (String × Node)

/-- The entries with the one under `key` changed. -/
def replace (key : String) (node : Node) (entries : Entries) : Entries :=
  entries.map fun e => if e.1 = key then (key, node) else e

def remove (key : String) (entries : Entries) : Entries :=
  entries.filter fun e => e.1 != key

/-- Whether a dotted key with `further` keys to come may go through a table. The table that
holds the last key must itself be the work of dotted keys. -/
def Origin.admits (further : List String) : Origin → Bool
  | header => false
  | implied => 1 < further.length
  | dotted => true

/-- Puts a value under a dotted key. -/
def assign : List String → Outline → Entries → Option Entries
  | [], _, _ => none
  | [key], o, entries =>
    match entries.lookup key with
    | none => some (entries ++ [(key, .value o)])
    | some _ => none
  | key :: further, o, entries =>
    match entries.lookup key with
    | none => do
      let inner ← assign further o []
      return entries ++ [(key, .table .dotted inner)]
    | some (.table origin inner) =>
      if origin.admits further then do
        let inner ← assign further o inner
        return replace key (.table origin inner) entries
      else none
    | some (.value _) => none

/-- Opens the table that a header names. One that other headers implied moves to the end. -/
def openTable : List String → Entries → Option Entries
  | [], _ => none
  | [key], entries =>
    match entries.lookup key with
    | none => some (entries ++ [(key, .table .header [])])
    | some (.table .implied inner) => some (remove key entries ++ [(key, .table .header inner)])
    | some _ => none
  | key :: further, entries =>
    match entries.lookup key with
    | none => do
      let inner ← openTable further []
      return entries ++ [(key, .table .implied inner)]
    | some (.table origin inner) => do
      let inner ← openTable further inner
      return replace key (.table origin inner) entries
    | some (.value _) => none

/-- Changes the table at a path. -/
def within (f : Entries → Option Entries) : List String → Entries → Option Entries
  | [], entries => f entries
  | key :: further, entries =>
    match entries.lookup key with
    | some (.table origin inner) => do
      let inner ← within f further inner
      return replace key (.table origin inner) entries
    | _ => none

mutual

def Node.outline : Node → Outline
  | .value o => o
  | .table _ entries => .record (entriesOutline entries)

def entriesOutline : Entries → List (Option String × Outline)
  | [] => []
  | (key, node) :: later => (some key, node.outline) :: entriesOutline later

end

end Census.Toml
