import Census.Toml.Scalar
import Census.Toml.Table
import Census.Toml.Token

/-!
From the tokens of a TOML text to its outline: line by line, with a stack of the lists and
inline tables that are still open. A text that goes wrong anywhere has no outline.
-/

namespace Census.Toml

/-- A piece of a dotted key. -/
inductive KeyPart where
  | name (s : String)
  | dot
  deriving DecidableEq, Repr

/-- The pieces of a word; `held` is the name being read. -/
def wordParts (held : List Char) : List Char → List KeyPart
  | [] => if held.isEmpty then [] else [.name (String.ofList held)]
  | '.' :: cs =>
    (if held.isEmpty then [] else [.name (String.ofList held)]) ++ .dot :: wordParts [] cs
  | c :: cs => wordParts (held ++ [c]) cs

/-- The keys between the points. -/
def keyPath? : List KeyPart → Option (List String)
  | [.name s] => some [s]
  | .name s :: .dot :: later => (keyPath? later).map (s :: ·)
  | _ => none

/-- How many lists, tables and keys may be nested. -/
def maxDepth : Nat := 79

def limitedPath? (parts : List KeyPart) : Option (List String) :=
  (keyPath? parts).filter fun path => path.length ≤ maxDepth

/-- The pieces that a token adds to a key. -/
def keyParts? : Token → Option (List KeyPart)
  | .word cs => if cs.contains '+' then none else some (wordParts [] cs)
  | .text s false => some [.name s]
  | _ => none

/-- The tables read so far, and the path of the one that lines belong to. -/
structure Progress where
  root : Entries := []
  current : List String := []

def Progress.assign (p : Progress) (path : List String) (o : Outline) : Option Progress :=
  (within (Toml.assign path o) p.current p.root).map fun root => { p with root }

def Progress.openTable (p : Progress) (path : List String) : Option Progress :=
  (Toml.openTable path p.root).map fun root => ⟨root, path⟩

/-- What is still open around a value. -/
inductive Frame where
  | list (held : List Outline)
  /-- An inline table, waiting for the value of a key. -/
  | table (entries : Entries) (path : List String)

/-- The key that a line gives a value to. -/
structure Line where
  progress : Progress
  path : List String

/-- What may come next. -/
inductive Place where
  /-- The start of a line. -/
  | start (p : Progress)
  /-- The key of a line, or its equals sign. -/
  | key (p : Progress) (parts : List KeyPart)
  /-- The name of a table, or the end of its header. -/
  | header (p : Progress) (parts : List KeyPart)
  /-- A value. -/
  | value (line : Line) (up : List Frame)
  /-- An item of the list on top, or its end. -/
  | item (line : Line) (held : List Outline) (up : List Frame)
  /-- The first key of an inline table, or its end. -/
  | firstKey (line : Line) (up : List Frame)
  /-- The rest of a key of an inline table, or its equals sign. -/
  | innerKey (line : Line) (entries : Entries) (parts : List KeyPart) (up : List Frame)
  /-- Whatever follows a value. -/
  | done (line : Line) (o : Outline) (up : List Frame)
  /-- The end of a line. -/
  | lineEnd (p : Progress)

/-- The place after a token that starts a value. -/
def startValue (line : Line) (up : List Frame) : Token → Option Place
  | .openList => if up.length < maxDepth then some (.item line [] up) else none
  | .openTable => if up.length < maxDepth then some (.firstKey line up) else none
  | .text s _ => some (.done line (.text s) up)
  | .word cs => (scalar? cs).map fun o => .done line o up
  | _ => none

/-- The place after a token that follows a value inside a list or a table. -/
def afterValue (line : Line) (o : Outline) : List Frame → Token → Option Place
  | .list held :: up, .comma => some (.item line (o :: held) up)
  | .list held :: up, .closeList => some (.done line (.list (o :: held).reverse) up)
  | .list held :: up, .newline => some (.done line o (.list held :: up))
  | .table entries path :: up, .comma => do
    let entries ← Toml.assign path o entries
    return .innerKey line entries [] up
  | .table entries path :: up, .closeTable => do
    let entries ← Toml.assign path o entries
    return .done line (.record (entriesOutline entries)) up
  | _, _ => none

/-- The place after the value of a whole line. -/
def afterLine (line : Line) (o : Outline) : Token → Option Place
  | .newline => (line.progress.assign line.path o).map .start
  | _ => none

/-- The next place, unless the token does not fit. -/
def Place.step : Place → Token → Option Place
  | start p, .newline => some (start p)
  | start p, .openList => some (header p [])
  | start p, t => (keyParts? t).map (key p)
  | key p parts, .equals => do
    let path ← limitedPath? parts
    return value ⟨p, path⟩ []
  | key p parts, t => (keyParts? t).map fun more => key p (parts ++ more)
  | header p parts, .closeList => do
    let path ← limitedPath? parts
    let p ← p.openTable path
    return lineEnd p
  | header p parts, t => (keyParts? t).map fun more => header p (parts ++ more)
  | value line up, t => startValue line up t
  | item line held up, .newline => some (item line held up)
  | item line held up, .closeList => some (done line (.list held.reverse) up)
  | item line held up, t => startValue line (.list held :: up) t
  | firstKey line up, .closeTable => some (done line (.record []) up)
  | firstKey line up, t => (keyParts? t).map fun parts => innerKey line [] parts up
  | innerKey line entries parts up, .equals => do
    let path ← limitedPath? parts
    return value line (.table entries path :: up)
  | innerKey line entries parts up, t =>
    (keyParts? t).map fun more => innerKey line entries (parts ++ more) up
  | done line o [], t => afterLine line o t
  | done line o up, t => afterValue line o up t
  | lineEnd p, .newline => some (start p)
  | lineEnd _, _ => none

/-- The tables of a text that ends at a place. -/
def Place.finish : Place → Option Progress
  | start p => some p
  | lineEnd p => some p
  | done line o [] => line.progress.assign line.path o
  | _ => none

/-- A byte-order mark in front does not count. -/
def dropMark : List Char → List Char
  | '\ufeff' :: cs => cs
  | cs => cs

/-- The outline of a text. -/
def read? (s : String) : Option Outline := do
  let place ← (tokens (dropMark s.toList)).foldlM Place.step (.start {})
  let p ← place.finish
  return .record (entriesOutline p.root)

end Census.Toml
