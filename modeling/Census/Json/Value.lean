import Census.Json.Quoted
import Census.Outline.Basic

/-!
JSON values and how they are written: on one line, or spread over lines with two blanks for each
level.
-/

namespace Census

inductive Json where
  | null
  | bool (b : Bool)
  | text (s : String)
  | list (items : List Json)
  | record (entries : List (String × Json))
  deriving Repr, Inhabited

namespace Json

def texts (items : List String) : Json :=
  list (items.map text)

def quoted (s : String) : List Char :=
  quote s.toList

def boolChars : Bool → List Char
  | true => ['t', 'r', 'u', 'e']
  | false => ['f', 'a', 'l', 's', 'e']

mutual

/-- The value on one line, without blanks. -/
def compactChars : Json → List Char
  | null => ['n', 'u', 'l', 'l']
  | bool b => boolChars b
  | text s => quoted s
  | list items => '[' :: compactItems items ++ [']']
  | record entries => '\x7b' :: compactEntries entries ++ ['\x7d']

def compactItems : List Json → List Char
  | [] => []
  | [v] => compactChars v
  | v :: later => compactChars v ++ ',' :: compactItems later

def compactEntries : List (String × Json) → List Char
  | [] => []
  | [(key, v)] => quoted key ++ ':' :: compactChars v
  | (key, v) :: later => quoted key ++ ':' :: compactChars v ++ ',' :: compactEntries later

end

def compact (v : Json) : String :=
  String.ofList v.compactChars

/-- The end of a line and the blanks before the next one. -/
def newline (level : Nat) : List Char :=
  '\n' :: List.replicate (2 * level) ' '

mutual

/-- The value spread over lines, at this level. -/
def prettyChars (level : Nat) : Json → List Char
  | null => ['n', 'u', 'l', 'l']
  | bool b => boolChars b
  | text s => quoted s
  | list [] => ['[', ']']
  | list (v :: later) => '[' :: prettyItems (level + 1) (v :: later) ++ newline level ++ [']']
  | record [] => ['\x7b', '\x7d']
  | record (e :: later) =>
    '\x7b' :: prettyEntries (level + 1) (e :: later) ++ newline level ++ ['\x7d']

def prettyItems (level : Nat) : List Json → List Char
  | [] => []
  | [v] => newline level ++ prettyChars level v
  | v :: later => newline level ++ prettyChars level v ++ ',' :: prettyItems level later

def prettyEntries (level : Nat) : List (String × Json) → List Char
  | [] => []
  | [(key, v)] => newline level ++ quoted key ++ [':', ' '] ++ prettyChars level v
  | (key, v) :: later =>
    newline level ++ quoted key ++ [':', ' '] ++ prettyChars level v
      ++ ',' :: prettyEntries level later

end

def pretty (v : Json) : String :=
  String.ofList (v.prettyChars 0)

mutual

/-- The outline that a written value has. -/
def outline : Json → Outline
  | null => .null
  | bool b => .bool b
  | text s => .text s
  | list items => .list (outlines items)
  | record entries => .record (entryOutlines entries)

def outlines : List Json → List Outline
  | [] => []
  | v :: later => v.outline :: outlines later

def entryOutlines : List (String × Json) → List (Option String × Outline)
  | [] => []
  | (key, v) :: later => (some key, v.outline) :: entryOutlines later

end

end Json

end Census
