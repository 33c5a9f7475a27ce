import Census.Cli.Files

/-!
Files in a tree of directories, and where a path leads in it. A path is followed step by step,
and each step starts from a directory, also one that stays in place or goes up: behind a file or
a missing name no path goes on.
-/

namespace Census.Cli

/-- A file, or a directory with what stands in it under each name. -/
inductive Node where
  | file (content : ByteArray)
  | directory (entries : List (String × Node))

abbrev Entries := List (String × Node)

/-- The text in a node. -/
def Node.read : Node → Except FileError String
  | file content => decode content
  | directory _ => .error .isDirectory

/-- A node and the directories that lead to it, the nearest first. -/
structure Place where
  node : Node
  above : List Node

/-- The most bytes that a name may have. -/
def nameLimit : Nat := 255

/-- The most bytes that a path may have. -/
def pathLimit : Nat := 4095

/-- The place that a name stands for in a directory. -/
def Place.enter (p : Place) (entries : Entries) (name : String) : Except FileError Place :=
  if nameLimit < name.utf8ByteSize then .error .nameTooLong
  else
    match entries.lookup name with
    | some node => .ok ⟨node, p.node :: p.above⟩
    | none => .error .notFound

/-- One directory up. Above the root there is only the root. -/
def Place.up (p : Place) : Place :=
  match p.above with
  | [] => p
  | node :: above => ⟨node, above⟩

def Place.step (p : Place) (step : List Char) : Except FileError Place :=
  match p.node with
  | .file _ => .error .notDirectory
  | .directory entries =>
    if staysInPlace step then .ok p
    else if step = ['.', '.'] then .ok p.up
    else p.enter entries (String.ofList step)

def Place.root (p : Place) : Place :=
  match p.above.getLast? with
  | some node => ⟨node, []⟩
  | none => p

/-- Where a path leads. One that begins with a slash starts at the root. -/
def Place.follow (p : Place) (path : String) : Except FileError Place :=
  if path = "" then .error .notFound
  else if pathLimit < path.utf8ByteSize then .error .nameTooLong
  else (steps path).foldlM Place.step (if path.toList.head? = some '/' then p.root else p)

/-- The files that paths lead to from a place. -/
def Place.files (p : Place) : Files := fun path => do
  (← p.follow path).node.read

/-- The entries with a node under a path of names, in directories that are made as needed. -/
def Entries.put (entries : Entries) (node : Node) : List String → Entries
  | [] => entries
  | [name] => (name, node) :: entries
  | name :: further =>
    let inner :=
      match entries.lookup name with
      | some (.directory inner) => inner
      | _ => []
    (name, .directory (Entries.put inner node further)) :: entries

/-- The names that a path leads through. -/
def names (path : String) : List String :=
  ((steps path).filter fun step => !staysInPlace step).map String.ofList

/-- Directories that stand at the root of every tree of files. -/
def rootNames : List String :=
  ["bin", "boot", "etc", "home", "lib", "media", "mnt", "opt", "proc", "run", "sbin", "srv", "sys",
   "usr", "var"]

/-- A tree with an empty file `/dev/null` and a working directory below `/tmp`. -/
def Place.working (entries : Entries) : Place :=
  let here : Node := .directory entries
  let shared : Node := .directory [("work", here)]
  let devices : Node := .directory [("null", .file .empty)]
  let root : Node := .directory
    (("dev", devices) :: ("tmp", shared) :: rootNames.map fun name => (name, .directory []))
  ⟨here, [shared, root]⟩

/-- Files by the paths under which they stand in the working directory. -/
def Files.ofEntries (entries : Entries) : Files :=
  (Place.working (entries.foldl (fun all (path, node) => all.put node (names path)) [])).files

end Census.Cli
