/-!
Arguments of a command line, level by level. A level takes options until a command name opens
the next level; an option's value stands behind it or is attached by an equals sign. What is
given at one level is kept in order.
-/

namespace Census.Cli

/-- What one argument looks like. -/
inductive Shape where
  /-- Two dashes: whatever follows is no option. -/
  | escape
  | long (name : String) (value : Option String)
  | short (letters : List Char)
  | plain
  deriving DecidableEq, Repr

def nameAndValue (cs : List Char) : Shape :=
  match cs.dropWhile (· != '=') with
  | [] => .long (String.ofList cs) none
  | _ :: value => .long (String.ofList (cs.takeWhile (· != '='))) (some (String.ofList value))

/-- A dash alone is a plain argument. -/
def Shape.ofArgument (a : String) : Shape :=
  match a.toList with
  | ['-', '-'] => .escape
  | '-' :: '-' :: cs => nameAndValue cs
  | '-' :: c :: cs => .short (c :: cs)
  | _ => .plain

/-- How often an option may be given, and whether with a value. -/
inductive Arity where
  | flag
  | once
  | many
  deriving DecidableEq, Repr

/-- An option and the values it accepts. -/
structure Opt where
  name : String
  arity : Arity
  accepts : String → Bool := fun _ => true

/-- What can be asked of the tool itself. -/
inductive Question where
  | help
  | version
  deriving DecidableEq, Repr

namespace Question

def ofName? : String → Option Question
  | "help" => some help
  | "version" => some version
  | _ => none

def ofLetter? : Char → Option Question
  | 'h' => some help
  | 'V' => some version
  | _ => none

end Question

/-- A level of the command line. -/
structure Level where
  options : List Opt
  /-- How many paths may stand without an option. -/
  paths : Nat := 0
  /-- The names that open the next level. -/
  commands : List String := []
  /-- Whether questions are answered. -/
  answers : Bool := false

namespace Level

/-- The question that an option of this name asks. -/
def question? (l : Level) (name : String) : Option Question :=
  if l.answers then Question.ofName? name else none

/-- Of several letters the first asks. -/
def letterQuestion? (l : Level) (letters : List Char) : Option Question :=
  if l.answers then letters.head?.bind Question.ofLetter? else none

theorem question?_eq_none {l : Level} {name : String} (h : Question.ofName? name = none) :
    l.question? name = none := by
  rw [question?, h, ite_self]

end Level

/-- Options with their values, in order; a flag has an empty value. -/
abbrev Given := List (String × String)

namespace Given

def has (g : Given) (name : String) : Bool :=
  (g.lookup name).isSome

def all (g : Given) (name : String) : List String :=
  (g.filter fun e => e.1 == name).map Prod.snd

end Given

/-- How reading a level ends. -/
inductive Scan where
  | done (given : Given) (paths : List String)
  /-- At a command name, with the arguments behind it. -/
  | command (given : Given) (name : String) (later : List String)
  | asked (q : Question)
  | wrong

def isPath (s : String) : Bool := s != ""

/-- Ends a level with further paths. -/
def Level.finish (l : Level) (given : Given) (paths : List String) : Scan :=
  if paths.length ≤ l.paths ∧ paths.all isPath then .done given paths else .wrong

/-- Takes the value of an option, if it may be one. -/
def Given.take? (g : Given) (o : Opt) (value : String) : Option Given :=
  if o.accepts value then some (g ++ [(o.name, value)]) else none

/-- Reads a level. `given` and `paths` are what it has taken so far; `waiting` is the option whose
value comes next. -/
def Level.scan (l : Level) (given : Given) (paths : List String) (waiting : Option Opt) :
    List String → Scan
  | [] => if waiting.isNone then l.finish given paths else .wrong
  | a :: later =>
    match waiting, Shape.ofArgument a with
    | some o, .plain =>
      match given.take? o a with
      | some given => l.scan given paths none later
      | none => .wrong
    | some _, _ => .wrong
    | none, .escape => l.finish given (paths ++ later)
    | none, .plain =>
      -- A command name is taken as such before it could be a path.
      if a ∈ l.commands then .command given a later
      else if paths.length < l.paths ∧ isPath a then l.scan given (paths ++ [a]) none later
      else .wrong
    | none, .short letters => (l.letterQuestion? letters).elim .wrong .asked
    | none, .long name value =>
      match l.question? name with
      -- A question ends the reading: nothing behind it matters.
      | some q => if value.isNone then .asked q else .wrong
      | none =>
        match l.options.find? fun o => o.name == name with
        | none => .wrong
        | some o =>
          if o.arity ≠ .many ∧ given.has name then .wrong
          else
            match o.arity, value with
            | .flag, none => l.scan (given ++ [(name, "")]) paths none later
            | .flag, some _ => .wrong
            | _, none => l.scan given paths (some o) later
            | _, some v =>
              match given.take? o v with
              | some given => l.scan given paths none later
              | none => .wrong

section Scan

variable {l : Level} {given : Given} {paths : List String} {a : String} {later : List String}

theorem Level.scan_nil {waiting : Option Opt} :
    l.scan given paths waiting [] =
      if waiting.isNone then l.finish given paths else .wrong := rfl

theorem Level.scan_value {o : Opt} (h : Shape.ofArgument a = .plain) :
    l.scan given paths (some o) (a :: later) =
      (given.take? o a).elim .wrong fun given => l.scan given paths none later := by
  simp only [scan, h]
  cases given.take? o a <;> rfl

/-- An option that waits for its value cannot be given another option. -/
theorem Level.scan_no_value {o : Opt} (h : Shape.ofArgument a ≠ .plain) :
    l.scan given paths (some o) (a :: later) = .wrong := by
  cases hshape : Shape.ofArgument a with
  | plain => exact absurd hshape h
  | escape | long | short => simp only [scan, hshape]

theorem Level.scan_escape (h : Shape.ofArgument a = .escape) :
    l.scan given paths none (a :: later) = l.finish given (paths ++ later) := by
  simp only [scan, h]

theorem Level.scan_plain (h : Shape.ofArgument a = .plain) :
    l.scan given paths none (a :: later) =
      if a ∈ l.commands then .command given a later
      else if paths.length < l.paths ∧ isPath a then l.scan given (paths ++ [a]) none later
      else .wrong := by
  simp only [scan, h]

theorem Level.scan_short {letters : List Char} (h : Shape.ofArgument a = .short letters) :
    l.scan given paths none (a :: later) = (l.letterQuestion? letters).elim .wrong .asked := by
  simp only [scan, h]

theorem Level.scan_question {name : String} {value : Option String} {q : Question}
    (h : Shape.ofArgument a = .long name value) (hquestion : l.question? name = some q) :
    l.scan given paths none (a :: later) = if value.isNone then .asked q else .wrong := by
  simp only [scan, h, hquestion]

theorem Level.scan_unknown {name : String} {value : Option String}
    (h : Shape.ofArgument a = .long name value) (hquestion : l.question? name = none)
    (hfind : l.options.find? (fun o => o.name == name) = none) :
    l.scan given paths none (a :: later) = .wrong := by
  simp only [scan, h, hquestion, hfind]

/-- Only an option that takes a value may have one attached; without one it waits for it. -/
theorem Level.scan_option {name : String} {value : Option String} {o : Opt}
    (h : Shape.ofArgument a = .long name value) (hquestion : l.question? name = none)
    (hfind : l.options.find? (fun o => o.name == name) = some o) :
    l.scan given paths none (a :: later) =
      if o.arity ≠ .many ∧ given.has name then .wrong
      else if o.arity = .flag then
        value.elim (l.scan (given ++ [(name, "")]) paths none later) fun _ => .wrong
      else
        value.elim (l.scan given paths (some o) later) fun v =>
          (given.take? o v).elim .wrong fun given => l.scan given paths none later := by
  simp only [scan, h, hquestion, hfind]
  congr 1
  cases o.arity with
  | flag => cases value <;> rfl
  | once | many =>
    cases value with
    | none => rfl
    | some v => cases htake : given.take? o v <;> simp [htake]

end Scan

/-- Reads a level from its start. -/
def Level.read (l : Level) (args : List String) : Scan :=
  l.scan [] [] none args

end Census.Cli
