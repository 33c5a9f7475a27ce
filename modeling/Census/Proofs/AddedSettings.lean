import Mathlib
import Census.Proofs.AddedEntries

/-!
A setting between the arguments of an accepted command line. Whichever level takes it, the command
and the configuration file stay what they are, and only the way in which the result is shown can
change.
-/

namespace Census.Cli

/-- One of the levels has taken an entry more. -/
def LevelsGrown (e : String × String) (levels levels' : List Given) : Prop :=
  ∃ inner g g' outer, levels = inner ++ g :: outer ∧ levels' = inner ++ g' :: outer ∧ g.Grown e g'

namespace LevelsGrown

variable {e : String × String} {value : String} {levels levels' : List Given}

theorem append (h : LevelsGrown e levels levels') (further : List Given) :
    LevelsGrown e (levels ++ further) (levels' ++ further) := by
  obtain ⟨inner, g, g', outer, rfl, rfl, hg⟩ := h
  exact ⟨inner, g, g', outer ++ further, by simp, by simp, hg⟩

theorem last {g g' : Given} (hg : g.Grown e g') (inner : List Given) :
    LevelsGrown e (inner ++ [g]) (inner ++ [g']) :=
  ⟨inner, g, g', [], rfl, rfl, hg⟩

theorem findSome? (h : LevelsGrown e levels levels') {α : Type} {f : Given → Option α}
    (hf : ∀ {g g' : Given}, g.Grown e g' → f g' = f g) :
    levels'.findSome? f = levels.findSome? f := by
  obtain ⟨inner, g, g', outer, rfl, rfl, hg⟩ := h
  simp only [List.findSome?_append, List.findSome?_cons, hf hg]

theorem any (h : LevelsGrown e levels levels') {f : Given → Bool}
    (hf : ∀ {g g' : Given}, g.Grown e g' → f g' = f g) : levels'.any f = levels.any f := by
  obtain ⟨inner, g, g', outer, rfl, rfl, hg⟩ := h
  simp only [List.any_append, List.any_cons, hf hg]

theorem invocation_quiet (h : LevelsGrown ("quiet", value) levels levels') (command : Command) :
    invocation levels' command = { invocation levels command with quiet := true } := by
  have hne : "config" ≠ "quiet" ∧ "output" ≠ "quiet" := by decide
  have hconfig : (levels'.findSome? fun g => g.lookup "config") =
      levels.findSome? fun g => g.lookup "config" := h.findSome? fun hg => hg.lookup hne.1
  have houtput : (levels'.findSome? fun g => (g.lookup "output").bind output?) =
      levels.findSome? fun g => (g.lookup "output").bind output? :=
    h.findSome? fun hg => by rw [hg.lookup hne.2]
  have hquiet : (levels'.any fun g => g.has "quiet") = true := by
    obtain ⟨inner, g, g', outer, -, rfl, hg⟩ := h
    exact List.any_eq_true.mpr ⟨g', by simp, hg.has_own⟩
  simp only [invocation, hconfig, houtput, hquiet]

theorem invocation_output (h : LevelsGrown ("output", value) levels levels') (command : Command) :
    ∃ output, invocation levels' command = { invocation levels command with output } := by
  have hne : "config" ≠ "output" ∧ "quiet" ≠ "output" := by decide
  have hconfig : (levels'.findSome? fun g => g.lookup "config") =
      levels.findSome? fun g => g.lookup "config" := h.findSome? fun hg => hg.lookup hne.1
  have hquiet : (levels'.any fun g => g.has "quiet") = levels.any fun g => g.has "quiet" :=
    h.any fun hg => hg.has hne.2
  -- An inner level may say otherwise, so the format need not be the one given.
  exact ⟨(invocation levels' command).output, by simp only [invocation, hconfig, hquiet]⟩

end LevelsGrown

/-- A reader of what stands behind a command name, handed what the levels around have taken. -/
structure Tail (read : List Given → List String → CommandLine) : Prop where
  /-- What the levels around have taken is only handed on. -/
  levels : ∀ {outer : List Given} {args : List String}, read outer args ≠ .wrong →
    ∃ inner command, ∀ outer', read outer' args = .invoke (invocation (inner ++ outer') command)
  /-- A setting that is taken is an entry more at one level. -/
  inserted : ∀ {piece : List String} {e : String × String}, Gives piece e →
    ∀ {before after : List String} {outer : List Given},
      (read outer (before ++ after) ≠ .wrong ∨ "--" ∉ before) →
      read outer (before ++ (piece ++ after)) ≠ .wrong →
      ∃ inner inner' command, LevelsGrown e inner inner' ∧
        read outer (before ++ after) = .invoke (invocation (inner ++ outer) command) ∧
        read outer (before ++ (piece ++ after)) = .invoke (invocation (inner' ++ outer) command)

/-- A last level: its command wants all the paths that the level admits, and is made without a look
at the settings. -/
structure IsLeaf (l : Level) (command? : Given → List String → Option Command) : Prop where
  globals : l.TakesGlobals
  full : ∀ {g : Given} {paths : List String} {command : Command},
    command? g paths = some command → l.paths ≤ paths.length
  blind : ∀ {piece : List String} {e : String × String}, Gives piece e →
    ∀ {g g' : Given}, g.Grown e g' → command? g' = command? g

section Leaf

variable {l : Level} {command? : Given → List String → Option Command}

theorem leaf_of_done {outer : List Given} {args paths : List String} {given : Given}
    (hread : l.read args = .done given paths) :
    leaf l outer command? args =
      (command? given paths).elim .wrong fun command =>
        .invoke (invocation (given :: outer) command) := by
  rw [leaf, hread]
  cases hcommand : command? given paths <;> simp only [hcommand] <;> rfl

/-- What a last level has read where it comes to a command. -/
theorem exists_of_leaf_ne_wrong {outer : List Given} {args : List String}
    (h : leaf l outer command? args ≠ .wrong) :
    ∃ given paths command, l.read args = .done given paths ∧
      command? given paths = some command := by
  cases hread : l.read args with
  | done given paths =>
    rw [leaf_of_done hread] at h
    cases hcommand : command? given paths with
    | none =>
      rw [hcommand] at h
      exact absurd rfl h
    | some command => exact ⟨given, paths, command, rfl, hcommand⟩
  | command | asked | wrong =>
    rw [leaf, hread] at h
    exact absurd rfl h

theorem IsLeaf.tail (hl : IsLeaf l command?) : Tail fun outer => leaf l outer command? where
  levels := by
    intro outer args h
    obtain ⟨given, paths, command, hread, hcommand⟩ := exists_of_leaf_ne_wrong h
    refine ⟨[given], command, fun outer' => ?_⟩
    rw [leaf_of_done hread, hcommand]
    rfl
  inserted := by
    intro piece e hpiece before after outer hbase hnew
    obtain ⟨given', paths', command, hread', hcommand'⟩ := exists_of_leaf_ne_wrong hnew
    have hinserted := hpiece.scan_inserted hl.globals [] [] none before after
    rw [← Level.read, ← Level.read, hread'] at hinserted
    cases hread : l.read (before ++ after) with
    | done given paths =>
      rw [hread] at hinserted
      cases hinserted with
      | taken h =>
        cases h with
        | done hgiven =>
          have hcommand : command? given _ = some command := hl.blind hpiece hgiven ▸ hcommand'
          refine ⟨[given], [given'], command, .last hgiven [], ?_, ?_⟩
          · rw [leaf_of_done hread, hcommand]
            rfl
          · rw [leaf_of_done hread', hcommand']
            rfl
      | paths hescape _ hmore hfit =>
        have hbefore := hbase.resolve_right (not_not_intro hescape)
        obtain ⟨_, paths₀, _, hread₀, hcommand₀⟩ := exists_of_leaf_ne_wrong hbefore
        obtain ⟨rfl, rfl⟩ := Scan.done.inj (hread.symm.trans hread₀)
        have hfull := hl.full hcommand₀
        omega
    | command | asked | wrong =>
      rw [hread] at hinserted
      cases hinserted with
      | taken h => cases h

/-- A level between, which leads on by the name of a command. -/
theorem Tail.behind (hl : l.TakesGlobals)
    {next : List Given → String → List String → CommandLine}
    (hnext : ∀ name, Tail fun outer => next outer name)
    {read : List Given → List String → CommandLine}
    (hread : ∀ outer args, read outer args =
      match l.read args with
      | .command given name later => next (given :: outer) name later
      | _ => .wrong) : Tail read where
  levels := by
    intro outer args h
    rw [hread] at h
    cases hargs : l.read args with
    | command given name later =>
      rw [hargs] at h
      obtain ⟨inner, command, hinner⟩ := (hnext name).levels h
      refine ⟨inner ++ [given], command, fun outer' => ?_⟩
      rw [hread, hargs, List.append_assoc]
      exact hinner _
    | done | asked | wrong =>
      rw [hargs] at h
      exact absurd rfl h
  inserted := by
    intro piece e hpiece before after outer hbase hnew
    rw [hread] at hbase hnew ⊢
    rw [hread]
    have hinserted := hpiece.scan_inserted hl [] [] none before after
    rw [← Level.read, ← Level.read] at hinserted
    generalize l.read (before ++ after) = s at *
    generalize l.read (before ++ (piece ++ after)) = s' at *
    cases hinserted with
    | taken h =>
      cases h with
      | command hgiven word later =>
        obtain ⟨inner, command, hinner⟩ := (hnext word).levels hnew
        refine ⟨_, _, command, .last hgiven inner, ?_, ?_⟩
        · rw [List.append_assoc]
          exact hinner _
        · rw [List.append_assoc]
          exact hinner _
      | done | asked | wrong | again => exact absurd rfl hnew
    | later given word hmiddle =>
      have hbase := hbase.imp_right fun hescape h => hescape (hmiddle.subset h)
      obtain ⟨inner, inner', command, hgrown, hcommand, hcommand'⟩ :=
        (hnext word).inserted hpiece hbase hnew
      refine ⟨_, _, command, hgrown.append [given], ?_, ?_⟩
      · rw [List.append_assoc]
        exact hcommand
      · rw [List.append_assoc]
        exact hcommand'
    | paths | refused => exact absurd rfl hnew

end Leaf

theorem Gives.name_mem {piece : List String} {e : String × String} (h : Gives piece e) :
    e.1 ∈ ["output", "quiet"] := by
  cases h with
  | quiet => exact List.mem_cons_of_mem _ List.mem_cons_self
  | output value | outputApart value => exact List.mem_cons_self

/-- What is given is the same, but for the settings. -/
structure Given.SameButSettings (g g' : Given) : Prop where
  lookup : ∀ name, name ∉ ["output", "quiet"] → List.lookup name g' = List.lookup name g
  all : ∀ name, name ∉ ["output", "quiet"] → g'.all name = g.all name

/-- A last level without paths, whose command is made without a look at the settings. -/
theorem isLeaf_of_sameButSettings {l : Level} (hl : l.TakesGlobals) (hpaths : l.paths = 0)
    {command? : Given → Option Command}
    (h : ∀ {g g' : Given}, g.SameButSettings g' → command? g' = command? g) :
    IsLeaf l fun g _ => command? g where
  globals := hl
  full := fun _ => hpaths ▸ Nat.zero_le _
  blind := by
    intro piece e hpiece g g' hg
    have hne {name : String} (hname : name ∉ ["output", "quiet"]) : name ≠ e.1 :=
      fun heq => hname (heq ▸ hpiece.name_mem)
    have hsame : g.SameButSettings g' :=
      ⟨fun _ hname => hg.lookup (hne hname), fun _ hname => hg.all (hne hname)⟩
    exact funext fun _ => h hsame

section Leaves

variable {g g' : Given} (h : g.SameButSettings g')

include h

theorem areaFilter?_eq : areaFilter? g' = areaFilter? g := by
  simp only [areaFilter?, h.lookup "area-type" (by decide), h.all "area" (by decide)]

theorem areaList?_eq : areaList? g' = areaList? g := by
  simp only [areaList?, areaFilter?_eq h, Given.has, h.lookup "area-level" (by decide),
    h.all "var" (by decide), h.lookup "universe" (by decide), h.lookup "title" (by decide),
    h.lookup "area-name" (by decide)]

theorem counter?_eq : counter? g' = counter? g := by
  simp only [counter?, areaFilter?_eq h, Given.has, h.lookup "area-level" (by decide),
    h.lookup "count" (by decide), h.lookup "universe" (by decide), h.lookup "title" (by decide),
    h.lookup "area-name" (by decide), h.lookup "total" (by decide)]

theorem median?_eq : median? g' = median? g := by
  simp only [median?, areaFilter?_eq h, Given.has, h.lookup "var" (by decide),
    h.all "by" (by decide), h.lookup "complete-names" (by decide),
    h.lookup "area-break" (by decide), h.lookup "universe" (by decide),
    h.lookup "title" (by decide)]

theorem dictionary?_eq_of_same : dictionary? g' = dictionary? g := by
  simp only [dictionary?, Given.has, h.lookup "rows" (by decide),
    h.lookup "categories" (by decide), h.lookup "append" (by decide)]

theorem rows_eq : List.lookup "rows" g' = List.lookup "rows" g :=
  h.lookup "rows" (by decide)

end Leaves

theorem tail_wrong : Tail fun _ _ => .wrong where
  levels := fun h => absurd rfl h
  inserted := fun _ _ _ _ _ h => absurd rfl h

theorem isLeaf_file :
    IsLeaf fileLevel fun _ paths => paths.head?.map fun p => .query (.file p) where
  globals := ⟨[], rfl⟩
  full := by
    intro g paths command h
    cases paths with
    | nil => cases h
    | cons p later => exact Nat.succ_le_succ (Nat.zero_le _)
  blind := fun _ _ _ _ => rfl

theorem tail_queryLeaf (name : String) : Tail fun outer => queryLeaf outer name := by
  have hreserved (r : Query.Reserved) :
      Tail fun outer => leaf reservedLevel outer fun _ _ => some (.query (.reserved r)) :=
    (isLeaf_of_sameButSettings ⟨[], rfl⟩ rfl fun _ => rfl).tail
  unfold queryLeaf
  split
  · refine (isLeaf_of_sameButSettings ⟨_, List.append_assoc _ _ _⟩ rfl fun h => ?_).tail
    rw [areaList?_eq h]
  · refine (isLeaf_of_sameButSettings ⟨_, List.append_assoc _ _ _⟩ rfl fun h => ?_).tail
    rw [counter?_eq h]
  · refine (isLeaf_of_sameButSettings ⟨_, List.append_assoc _ _ _⟩ rfl fun h => ?_).tail
    rw [median?_eq h]
  · exact hreserved .mean
  · exact hreserved .cross
  · exact hreserved .frequencies
  · exact hreserved .stats
  · exact isLeaf_file.tail
  · exact tail_wrong

theorem tail_rootLeaf (name : String) : Tail fun outer => rootLeaf outer name := by
  unfold rootLeaf
  split
  · exact Tail.behind ⟨[], rfl⟩ tail_queryLeaf fun _ _ => rfl
  · exact (isLeaf_of_sameButSettings ⟨_, rfl⟩ rfl dictionary?_eq_of_same).tail
  · refine (isLeaf_of_sameButSettings ⟨_, rfl⟩ rfl fun h => ?_).tail
    rw [identifiers?, identifiers?, rows_eq h]
  · refine (isLeaf_of_sameButSettings ⟨_, rfl⟩ rfl fun h => ?_).tail
    rw [categoryForm?, categoryForm?, rows_eq h]
  · exact tail_wrong

/-- What a setting changes of an invocation. -/
structure Invocation.With (i : Invocation) (e : String × String) (i' : Invocation) : Prop where
  quiet : e.1 = "quiet" → i' = { i with quiet := true }
  output : e.1 = "output" → ∃ output, i' = { i with output }

theorem LevelsGrown.with {piece : List String} {e : String × String} (hpiece : Gives piece e)
    {levels levels' : List Given} (h : LevelsGrown e levels levels') (command : Command) :
    (invocation levels command).With e (invocation levels' command) := by
  have hne : "quiet" ≠ "output" := by decide
  cases hpiece with
  | quiet => exact ⟨fun _ => h.invocation_quiet command, fun heq => absurd heq hne⟩
  | output value | outputApart value =>
    exact ⟨fun heq => absurd heq.symm hne, fun _ => h.invocation_output command⟩

/-- Reads all commands behind the root. -/
def readCommands (outer : List Given) (args : List String) : CommandLine :=
  match root.read args with
  | .command given name later => rootLeaf (given :: outer) name later
  | _ => .wrong

theorem tail_readCommands : Tail readCommands :=
  Tail.behind ⟨[], rfl⟩ tail_rootLeaf fun _ _ => rfl

theorem CommandLine.ofArguments_of_asked {args : List String} {q : Question}
    (h : root.read args = .asked q) : ofArguments args = .asked q := by
  rw [ofArguments, h]

theorem CommandLine.ofArguments_of_not_asked {args : List String}
    (h : ∀ q, root.read args ≠ .asked q) : ofArguments args = readCommands [] args := by
  rw [ofArguments, readCommands]
  cases hread : root.read args with
  | asked q => exact absurd hread (h q)
  | done | command | wrong => rfl

theorem CommandLine.root_read_ne_wrong {args : List String} (h : ofArguments args ≠ .wrong) :
    root.read args ≠ .wrong := by
  intro hwrong
  apply h
  rw [ofArguments, hwrong]

/-- A setting between the arguments of a command line, if the line is accepted, is all that is
added. It must not stand for a path. -/
theorem Gives.ofArguments {piece : List String} {e : String × String} (h : Gives piece e)
    {before after : List String}
    (hbase : CommandLine.ofArguments (before ++ after) ≠ .wrong ∨ "--" ∉ before)
    (hnew : CommandLine.ofArguments (before ++ (piece ++ after)) ≠ .wrong) :
    (∃ q, CommandLine.ofArguments (before ++ after) = .asked q ∧
        CommandLine.ofArguments (before ++ (piece ++ after)) = .asked q) ∨
      ∃ i i', CommandLine.ofArguments (before ++ after) = .invoke i ∧
        CommandLine.ofArguments (before ++ (piece ++ after)) = .invoke i' ∧ i.With e i' := by
  have hroot := h.scan_inserted (l := root) ⟨[], rfl⟩ [] [] none before after
  rw [← Level.read, ← Level.read] at hroot
  have hsame (q : Question) := hroot.asked_iff (CommandLine.root_read_ne_wrong hnew) (q := q)
  by_cases hasked : ∃ q, root.read (before ++ after) = .asked q
  · left
    obtain ⟨q, hq⟩ := hasked
    exact ⟨q, CommandLine.ofArguments_of_asked hq,
      CommandLine.ofArguments_of_asked ((hsame q).mp hq)⟩
  · right
    have hbefore : ∀ q, root.read (before ++ after) ≠ .asked q := not_exists.mp hasked
    have hafter : ∀ q, root.read (before ++ (piece ++ after)) ≠ .asked q :=
      fun q hq => hbefore q ((hsame q).mpr hq)
    rw [CommandLine.ofArguments_of_not_asked hafter] at hnew ⊢
    rw [CommandLine.ofArguments_of_not_asked hbefore] at hbase ⊢
    obtain ⟨inner, inner', command, hgrown, hcommand, hcommand'⟩ :=
      tail_readCommands.inserted h hbase hnew
    exact ⟨_, _, hcommand, hcommand', (hgrown.append []).with h command⟩

/-- The quiet switch can be put in front of every command line without it. -/
theorem ofArguments_quiet_cons {args : List String} {i : Invocation}
    (h : CommandLine.ofArguments args = .invoke i) (hquiet : i.quiet = false) :
    CommandLine.ofArguments ("--quiet" :: args) = .invoke { i with quiet := true } := by
  have hshape : Shape.ofArgument "--quiet" = .long "quiet" none := by decide
  have hscan : root.read ("--quiet" :: args) = root.scan [("quiet", "")] [] none args :=
    Level.scan_flag (o := { name := "quiet", arity := .flag }) rfl rfl (by decide) hshape rfl args
  have hgrown := (Given.Grown.last ("quiet", "") []).scan (l := root) [] none args
  rw [← Level.read, List.nil_append, ← hscan] at hgrown
  have hnew : CommandLine.ofArguments ("--quiet" :: args) ≠ .wrong := by
    rw [CommandLine.ofArguments] at h ⊢
    generalize root.read args = s at *
    generalize root.read ("--quiet" :: args) = s' at *
    cases s with
    | command given word later =>
      have haccepted : rootLeaf [given] word later ≠ .wrong := by
        intro hwrong
        cases hwrong.symm.trans h
      obtain ⟨inner, command, hlevels⟩ := (tail_rootLeaf word).levels haccepted
      cases hgrown with
      | command hgiven => exact fun hwrong => by cases (hlevels _).symm.trans hwrong
      | again hagain =>
        have hon : given.has "quiet" = true := hagain given rfl
        obtain rfl : invocation (inner ++ [given]) command = i :=
          CommandLine.invoke.inj ((hlevels [given]).symm.trans h)
        rw [invocation, List.any_append] at hquiet
        simp [hon] at hquiet
    | done | asked | wrong => cases h
  have hbase : CommandLine.ofArguments ([] ++ args) ≠ .wrong := fun hwrong => by
    cases hwrong.symm.trans h
  rcases Gives.quiet.ofArguments (.inl hbase) hnew with ⟨q, hasked, -⟩ | ⟨_, i', hi, hi', hwith⟩
  · cases hasked.symm.trans h
  · obtain rfl := CommandLine.invoke.inj (hi.symm.trans h)
    rwa [hwith.quiet rfl] at hi'

end Census.Cli
