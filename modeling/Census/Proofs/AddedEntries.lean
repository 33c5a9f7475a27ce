import Mathlib
import Census.Proofs.CommandOptions

/-!
A command line with one setting more. The level that takes the setting has one entry more from
then on, which matters to nothing it reads but the same option again.
-/

namespace Census.Cli

theorem Given.has_concat {g : Given} {entry : String × String} {name : String}
    (h : g.has name = true ∨ entry.1 = name) : Given.has (g ++ [entry]) name = true := by
  rw [Given.has, List.lookup_append]
  cases hlookup : List.lookup name g with
  | some v => rfl
  | none =>
    rcases h with h | rfl
    · rw [Given.has, hlookup] at h
      cases h
    · rw [List.lookup_cons_self]
      rfl

/-- What has been taken stays taken, also what an option that waits for its value will take. -/
theorem Level.keeps_has (l : Level) (name : String) :
    l.Keeps fun given waiting => given.has name = true ∨ ∃ o ∈ waiting, o.name = name where
  wait := fun _ h => .inl (h.resolve_right fun ⟨_, ho, _⟩ => by cases ho)
  taken := fun _ _ h =>
    .inl (Given.has_concat (.inl (h.resolve_right fun ⟨_, ho, _⟩ => by cases ho)))
  value := by
    rintro given o value - h
    refine .inl (Given.has_concat (h.imp_right ?_))
    rintro ⟨p, hp, rfl⟩
    rw [Option.some.inj hp]

theorem Level.has_of_scan {l : Level} {name : String} {given : Given} {waiting : Option Opt}
    (h : given.has name = true ∨ ∃ o ∈ waiting, o.name = name) (paths args : List String) :
    ∀ g ∈ (l.scan given paths waiting args).given?, g.has name = true :=
  fun g hg => ((l.keeps_has name).scan h paths args g hg).resolve_right
    fun ⟨_, ho, _⟩ => by cases ho

/-- The second reading has come to the same with one entry more. It may also have been refused,
but only where the first has an entry of that name, which may not come twice. -/
inductive Scan.Grown (e : String × String) : Scan → Scan → Prop
  | done {g g' : Given} (h : g.Grown e g') (paths : List String) :
    Grown e (.done g paths) (.done g' paths)
  | command {g g' : Given} (h : g.Grown e g') (word : String) (later : List String) :
    Grown e (.command g word later) (.command g' word later)
  | asked (q : Question) : Grown e (.asked q) (.asked q)
  | wrong : Grown e .wrong .wrong
  | again {s : Scan} (h : ∀ g ∈ s.given?, g.has e.1 = true) : Grown e s .wrong

section Scanning

variable {l : Level}

theorem Given.Grown.finish {e : String × String} {g g' : Given} (h : g.Grown e g')
    (paths : List String) : (l.finish g paths).Grown e (l.finish g' paths) := by
  rw [Level.finish, Level.finish]
  split_ifs
  · exact .done h paths
  · exact .wrong

/-- Where an option may come once only, the entry more can be in its way. -/
theorem Given.Grown.unless_given {e : String × String} {g g' : Given} (h : g.Grown e g')
    {once : Prop} [Decidable once] {name : String} {s s' : Scan} (hs : s.Grown e s')
    (hgiven : name = e.1 → ∀ g ∈ s.given?, g.has e.1 = true) :
    (if once ∧ g.has name then .wrong else s).Grown e
      (if once ∧ g'.has name then .wrong else s') := by
  by_cases hname : name = e.1
  · subst hname
    rw [h.has_own]
    split_ifs with hbefore honce honce
    · exact .wrong
    · exact absurd ⟨hbefore.1, rfl⟩ honce
    · exact .again (hgiven rfl)
    · exact hs
  · rw [h.has hname]
    split_ifs
    · exact .wrong
    · exact hs

/-- An entry more makes no difference, unless its option comes again and may not. -/
theorem Given.Grown.scan {e : String × String} {g g' : Given} (h : g.Grown e g')
    (paths : List String) (waiting : Option Opt) (args : List String) :
    (l.scan g paths waiting args).Grown e (l.scan g' paths waiting args) := by
  induction args generalizing g g' paths waiting with
  | nil =>
    rw [Level.scan_nil, Level.scan_nil]
    split_ifs
    · exact h.finish paths
    · exact .wrong
  | cons a later ih =>
    rw [Level.scan_cons, Level.scan_cons]
    -- The effect of an argument is the same in both readings, whatever has been taken.
    cases l.effect waiting a with
    | entry name value once =>
      exact h.unless_given (ih (h.concat (name, value)) paths none) fun hname =>
        Level.has_of_scan (.inl (Given.has_concat (.inr hname))) paths later
    | wait o =>
      exact h.unless_given (ih h paths (some o)) fun hname =>
        Level.has_of_scan (.inr ⟨o, rfl, hname⟩) paths later
    | path a =>
      rw [Level.proceed, Level.proceed]
      split_ifs
      · exact ih h _ none
      · exact .wrong
    | command a => exact .command h a later
    | escape => exact h.finish _
    | asked q => exact .asked q
    | wrong => exact .wrong

end Scanning

/-- Arguments that say how a result is shown, with the entry that they make at any level. -/
inductive Gives : List String → String × String → Prop
  | quiet : Gives ["--quiet"] ("quiet", "")
  | output (value : String) : Gives [attached "output" value] ("output", value)
  | outputApart (value : String) : Gives ["--output", value] ("output", value)

/-- The options of every level are the first of this one. -/
def Level.TakesGlobals (l : Level) : Prop :=
  ∃ options, l.options = globals ++ options

theorem Level.TakesGlobals.find? {l : Level} (hl : l.TakesGlobals) {name : String} {o : Opt}
    (h : globals.find? (fun p => p.name == name) = some o) :
    l.options.find? (fun p => p.name == name) = some o := by
  obtain ⟨options, hoptions⟩ := hl
  rw [hoptions, List.find?_append, h]
  rfl

theorem Gives.head_not_plain {piece : List String} {e : String × String} (h : Gives piece e) :
    ∃ a later, piece = a :: later ∧ Shape.ofArgument a ≠ .plain := by
  cases h with
  | quiet => exact ⟨_, _, rfl, by decide⟩
  | output value =>
    have hshape : Shape.ofArgument (attached "output" value) = .long "output" (some value) :=
      Shape.ofArgument_attached (by decide) value
    exact ⟨_, _, rfl, by rw [hshape]; exact fun h => by cases h⟩
  | outputApart value => exact ⟨_, _, rfl, by decide⟩

section Settings

variable {l : Level} (hl : l.TakesGlobals) {piece : List String} {e : String × String}

include hl

/-- A setting is taken where no value is waited for, unless it is refused. -/
theorem Gives.scan_none (h : Gives piece e) (given : Given) (paths after : List String) :
    l.scan given paths none (piece ++ after) = .wrong ∨
      l.scan given paths none (piece ++ after) = l.scan (given ++ [e]) paths none after := by
  cases h with
  | quiet =>
    have hshape : Shape.ofArgument "--quiet" = .long "quiet" none := by decide
    have hfind : l.options.find? (fun p => p.name == "quiet") =
      some { name := "quiet", arity := .flag } := hl.find? rfl
    rw [List.singleton_append, Level.scan_option hshape (Level.question?_eq_none rfl) hfind,
      if_pos rfl]
    split_ifs
    · exact .inl rfl
    · exact .inr rfl
  | output value =>
    have hshape : Shape.ofArgument (attached "output" value) = .long "output" (some value) :=
      Shape.ofArgument_attached (by decide) value
    have hfind : l.options.find? (fun p => p.name == "output") =
      some { name := "output", arity := .once, accepts := fun v => (output? v).isSome } :=
        hl.find? rfl
    rw [List.singleton_append, Level.scan_option hshape (Level.question?_eq_none rfl) hfind,
      if_neg (by decide : Arity.once ≠ Arity.flag), Option.elim_some, Given.take?]
    split_ifs
    · exact .inl rfl
    · exact .inr rfl
    · exact .inl rfl
  | outputApart value =>
    have hshape : Shape.ofArgument "--output" = .long "output" none := by decide
    have hfind : l.options.find? (fun p => p.name == "output") =
      some { name := "output", arity := .once, accepts := fun v => (output? v).isSome } :=
        hl.find? rfl
    rw [List.cons_append, Level.scan_option hshape (Level.question?_eq_none rfl) hfind,
      if_neg (by decide : Arity.once ≠ Arity.flag), Option.elim_none, List.singleton_append,
      Level.scan_cons]
    split_ifs
    · exact .inl rfl
    · rcases l.effect_some _ value with ⟨-, heffect⟩ | heffect
      · exact .inr (by rw [heffect]; rfl)
      · exact .inl (by rw [heffect]; rfl)

theorem Gives.scan (h : Gives piece e) (given : Given) (paths : List String)
    (waiting : Option Opt) (after : List String) :
    l.scan given paths waiting (piece ++ after) = .wrong ∨ waiting = none ∧
      l.scan given paths waiting (piece ++ after) = l.scan (given ++ [e]) paths none after := by
  cases waiting with
  | some o =>
    obtain ⟨a, later, rfl, hplain⟩ := h.head_not_plain
    exact .inl (Level.scan_no_value hplain)
  | none => exact (h.scan_none hl given paths after).imp_right fun hscan => ⟨rfl, hscan⟩

end Settings

/-- How a level reads a command line with and without a piece between `before` and `after`. -/
inductive Scan.Inserted (l : Level) (e : String × String) (piece before after : List String) :
    Scan → Scan → Prop
  /-- The level has taken the piece. -/
  | taken {s s' : Scan} (h : s.Grown e s') : Inserted l e piece before after s s'
  /-- The piece is for a later level. -/
  | later (given : Given) (word : String) {middle : List String} (h : middle <:+ before) :
    Inserted l e piece before after (.command given word (middle ++ after))
      (.command given word (middle ++ (piece ++ after)))
  /-- Behind two dashes the piece stands for paths. -/
  | paths (h : "--" ∈ before) (given : Given) {paths paths' : List String}
    (hmore : paths.length < paths'.length) (hfit : paths'.length ≤ l.paths) :
    Inserted l e piece before after (.done given paths) (.done given paths')
  | refused (s : Scan) : Inserted l e piece before after s .wrong

theorem Scan.Inserted.cons {l : Level} {e : String × String} {piece before after : List String}
    {s s' : Scan} (h : s.Inserted l e piece before after s') (a : String) :
    s.Inserted l e piece (a :: before) after s' := by
  cases h with
  | taken h => exact .taken h
  | later given word h => exact .later given word (h.trans (List.suffix_cons a before))
  | paths h given hmore hfit => exact .paths (List.mem_cons_of_mem a h) given hmore hfit
  | refused => exact .refused s

/-- A piece that is not refused does not decide what is asked. -/
theorem Scan.Inserted.asked_iff {l : Level} {e : String × String}
    {piece before after : List String} {s s' : Scan} (h : s.Inserted l e piece before after s')
    (hnew : s' ≠ .wrong) {q : Question} : s = .asked q ↔ s' = .asked q := by
  cases h with
  | taken h =>
    cases h with
    | done | command => simp
    | asked => rfl
    | wrong | again => exact absurd rfl hnew
  | later | paths => simp
  | refused => exact absurd rfl hnew

theorem Gives.finish_inserted {l : Level} {e : String × String} {piece : List String}
    (h : Gives piece e) {before : List String} (hbefore : "--" ∈ before) (given : Given)
    (paths middle after : List String) :
    (l.finish given (paths ++ (middle ++ after))).Inserted l e piece before after
      (l.finish given (paths ++ (middle ++ (piece ++ after)))) := by
  obtain ⟨a, later, rfl, -⟩ := h.head_not_plain
  have hmore : (paths ++ (middle ++ after)).length <
      (paths ++ (middle ++ (a :: later ++ after))).length := by
    simp only [List.length_append, List.length_cons]
    omega
  rw [Level.finish, Level.finish]
  split_ifs with hbase hnew
  · exact .paths hbefore given hmore hnew.1
  · exact .refused _
  · rename_i hnew
    refine absurd ⟨(Nat.le_of_lt hmore).trans hnew.1, ?_⟩ hbase
    simp only [List.all_append, Bool.and_eq_true] at hnew ⊢
    exact ⟨hnew.2.1, hnew.2.2.1, hnew.2.2.2.2⟩
  · exact .refused _

/-- A piece is read the same wherever the reading has come to it, so only what becomes of the
arguments in front of it is to be looked at. -/
theorem Gives.scan_inserted {l : Level} (hl : l.TakesGlobals) {piece : List String}
    {e : String × String} (h : Gives piece e) (given : Given) (paths : List String)
    (waiting : Option Opt) (before after : List String) :
    (l.scan given paths waiting (before ++ after)).Inserted l e piece before after
      (l.scan given paths waiting (before ++ (piece ++ after))) := by
  induction before generalizing given paths waiting with
  | nil =>
    rw [List.nil_append, List.nil_append]
    rcases h.scan hl given paths waiting after with hwrong | ⟨rfl, htaken⟩
    · rw [hwrong]
      exact .refused _
    · rw [htaken]
      exact .taken ((Given.Grown.last e given).scan paths none after)
  | cons a before ih =>
    rw [List.cons_append, List.cons_append, Level.scan_cons, Level.scan_cons]
    cases heffect : l.effect waiting a with
    | entry name value once =>
      rw [Level.proceed, Level.proceed]
      split_ifs
      · exact .refused _
      · exact (ih _ _ _).cons a
    | wait o =>
      rw [Level.proceed, Level.proceed]
      split_ifs
      · exact .refused _
      · exact (ih _ _ _).cons a
    | path p =>
      rw [Level.proceed, Level.proceed]
      split_ifs
      · exact (ih _ _ _).cons a
      · exact .refused _
    | command word => exact .later given word (List.suffix_cons a before)
    | escape =>
      have ha : "--" ∈ a :: before := l.eq_of_effect_eq_escape heffect ▸ List.mem_cons_self
      exact h.finish_inserted ha given paths before after
    | asked q => exact .taken (.asked q)
    | wrong => exact .refused _

end Census.Cli
