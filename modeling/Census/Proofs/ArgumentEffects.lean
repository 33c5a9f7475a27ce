import Mathlib
import Census.Cli.Arguments

/-!
What one argument does to a level of the command line, told apart from what the level has taken so
far: only whether an option may still be given depends on that. What every argument keeps, a whole
reading keeps.
-/

namespace Census.Cli

/-- What an argument does, wherever it stands. -/
inductive Effect where
  /-- Gives an option its value; `once` if the option may not have been given. -/
  | entry (name value : String) (once : Bool)
  /-- Names an option that waits for its value. -/
  | wait (o : Opt)
  | path (a : String)
  | command (a : String)
  /-- Turns all that follows into paths. -/
  | escape
  | asked (q : Question)
  | wrong

def Opt.effect (o : Opt) (value : Option String) : Effect :=
  if o.arity = .flag then value.elim (.entry o.name "" true) fun _ => .wrong
  else
    value.elim (.wait o) fun v =>
      if o.accepts v then .entry o.name v (o.arity ≠ .many) else .wrong

def Level.effect (l : Level) (waiting : Option Opt) (a : String) : Effect :=
  match waiting, Shape.ofArgument a with
  | some o, .plain => if o.accepts a then .entry o.name a false else .wrong
  | some _, _ => .wrong
  | none, .escape => .escape
  | none, .plain => if a ∈ l.commands then .command a else if isPath a then .path a else .wrong
  | none, .short letters => (l.letterQuestion? letters).elim .wrong .asked
  | none, .long name value =>
    match l.question? name with
    | some q => if value.isNone then .asked q else .wrong
    | none => (l.options.find? fun o => o.name == name).elim .wrong fun o => o.effect value

/-- Reads on behind an argument with this effect. -/
def Level.proceed (l : Level) (given : Given) (paths : List String) (later : List String) :
    Effect → Scan
  | .entry name value once =>
    if once ∧ given.has name then .wrong else l.scan (given ++ [(name, value)]) paths none later
  | .wait o =>
    if o.arity ≠ .many ∧ given.has o.name then .wrong else l.scan given paths (some o) later
  | .path a => if paths.length < l.paths then l.scan given (paths ++ [a]) none later else .wrong
  | .command a => .command given a later
  | .escape => l.finish given (paths ++ later)
  | .asked q => .asked q
  | .wrong => .wrong

section Reading

variable {l : Level} {given : Given} {paths : List String} {a : String} {later : List String}

theorem Level.proceed_option {o : Opt} {value : Option String} :
    l.proceed given paths later (o.effect value) =
      if o.arity ≠ .many ∧ given.has o.name then .wrong
      else if o.arity = .flag then
        value.elim (l.scan (given ++ [(o.name, "")]) paths none later) fun _ => .wrong
      else
        value.elim (l.scan given paths (some o) later) fun v =>
          (given.take? o v).elim .wrong fun given => l.scan given paths none later := by
  rw [Opt.effect]
  cases value with
  | none => by_cases hflag : o.arity = .flag <;> simp [hflag, proceed]
  | some v =>
    by_cases hflag : o.arity = .flag
    · simp [hflag, proceed]
    · by_cases haccepts : o.accepts v = true <;> simp [hflag, haccepts, proceed, Given.take?]

/-- A level does with an argument what the effect of the argument says. -/
theorem Level.scan_cons (waiting : Option Opt) :
    l.scan given paths waiting (a :: later) =
      l.proceed given paths later (l.effect waiting a) := by
  cases hshape : Shape.ofArgument a with
  | plain =>
    cases waiting with
    | some o =>
      rw [scan_value hshape]
      by_cases haccepts : o.accepts a = true <;>
        simp [effect, hshape, haccepts, proceed, Given.take?]
    | none =>
      rw [scan_plain hshape]
      by_cases hcommand : a ∈ l.commands <;> by_cases hpath : isPath a = true <;>
        simp [effect, hshape, hcommand, hpath, proceed]
  | escape =>
    cases waiting with
    | some o => simp [scan_no_value, effect, hshape, proceed]
    | none => simp [scan_escape hshape, effect, hshape, proceed]
  | short letters =>
    cases waiting with
    | some o => simp [scan_no_value, effect, hshape, proceed]
    | none =>
      rw [scan_short hshape]
      cases hquestion : l.letterQuestion? letters <;> simp [effect, hshape, hquestion, proceed]
  | long name value =>
    cases waiting with
    | some o => simp [scan_no_value, effect, hshape, proceed]
    | none =>
      cases hquestion : l.question? name with
      | some q =>
        rw [scan_question hshape hquestion]
        cases value <;> simp [effect, hshape, hquestion, proceed]
      | none =>
        cases hfind : l.options.find? fun o => o.name == name with
        | none =>
          rw [scan_unknown hshape hquestion hfind]
          simp [effect, hshape, hquestion, hfind, proceed]
        | some o =>
          have hname : o.name = name := by simpa using List.find?_some hfind
          subst hname
          rw [scan_option hshape hquestion hfind, ← proceed_option]
          simp [effect, hshape, hquestion, hfind]

end Reading

section Inversion

theorem Shape.eq_of_ofArgument_eq_escape {a : String} (h : ofArgument a = .escape) : a = "--" := by
  rw [ofArgument] at h
  split at h
  · rename_i hchars
    exact String.toList_inj.mp hchars
  · rw [nameAndValue] at h
    split at h <;> cases h
  · cases h
  · cases h

/-- What naming an option does: a flag is taken at once, the value of another option is attached or
is waited for. -/
theorem Opt.effect_cases (o : Opt) (value : Option String) :
    (o.arity = .flag ∧ value = none ∧ o.effect value = .entry o.name "" true) ∨
      (o.arity ≠ .flag ∧ o.effect value = .wait o) ∨
      (∃ v, o.arity ≠ .flag ∧ o.accepts v = true ∧
        o.effect value = .entry o.name v (o.arity ≠ .many)) ∨
      o.effect value = .wrong := by
  rw [Opt.effect]
  cases value with
  | none => by_cases hflag : o.arity = .flag <;> simp [hflag]
  | some v =>
    by_cases hflag : o.arity = .flag
    · simp [hflag]
    · by_cases haccepts : o.accepts v = true <;> simp [hflag, haccepts]

variable (l : Level)

/-- An option that waits for its value gets it, or the reading ends. -/
theorem Level.effect_some (o : Opt) (a : String) :
    (o.accepts a = true ∧ l.effect (some o) a = .entry o.name a false) ∨
      l.effect (some o) a = .wrong := by
  cases hshape : Shape.ofArgument a with
  | plain => by_cases haccepts : o.accepts a = true <;> simp [effect, hshape, haccepts]
  | escape | long | short => simp [effect, hshape]

theorem Level.effect_none (a : String) :
    (∃ o ∈ l.options, ∃ value, Shape.ofArgument a = .long o.name value ∧
        l.effect none a = o.effect value) ∨
      (a = "--" ∧ l.effect none a = .escape) ∨ l.effect none a = .command a ∨
      l.effect none a = .path a ∨ (∃ q, l.effect none a = .asked q) ∨
      l.effect none a = .wrong := by
  cases hshape : Shape.ofArgument a with
  | plain =>
    by_cases hcommand : a ∈ l.commands <;> by_cases hpath : isPath a = true <;>
      simp [effect, hshape, hcommand, hpath]
  | escape => exact .inr (.inl ⟨Shape.eq_of_ofArgument_eq_escape hshape, by simp [effect, hshape]⟩)
  | short letters =>
    cases hquestion : l.letterQuestion? letters <;> simp [effect, hshape, hquestion]
  | long name value =>
    cases hquestion : l.question? name with
    | some q => cases value <;> simp [effect, hshape, hquestion]
    | none =>
      cases hfind : l.options.find? fun o => o.name == name with
      | none => simp [effect, hshape, hquestion, hfind]
      | some o =>
        have hname : o.name = name := by simpa using List.find?_some hfind
        refine .inl ⟨o, List.mem_of_find?_eq_some hfind, value, hname ▸ rfl, ?_⟩
        simp [effect, hshape, hquestion, hfind]

theorem Level.eq_of_effect_eq_escape {waiting : Option Opt} {a : String}
    (h : l.effect waiting a = .escape) : a = "--" := by
  cases waiting with
  | some o => rcases l.effect_some o a with ⟨-, heffect⟩ | heffect <;> rw [heffect] at h <;> cases h
  | none =>
    rcases l.effect_none a with
      ⟨o, -, value, -, heffect⟩ | ⟨rfl, -⟩ | heffect | heffect | ⟨q, heffect⟩ | heffect
    · rw [heffect] at h
      rcases o.effect_cases value with
        ⟨-, -, hoption⟩ | ⟨-, hoption⟩ | ⟨v, -, -, hoption⟩ | hoption <;>
        rw [hoption] at h <;> cases h
    · rfl
    all_goals rw [heffect] at h; cases h

end Inversion

/-- The second list is the first with one entry more. -/
def Given.Grown (e : String × String) (g g' : Given) : Prop :=
  ∃ earlier later, g = earlier ++ later ∧ g' = earlier ++ e :: later

namespace Given.Grown

variable {e : String × String} {g g' : Given}

theorem last (e : String × String) (g : Given) : Grown e g (g ++ [e]) :=
  ⟨g, [], (List.append_nil g).symm, rfl⟩

theorem concat (h : Grown e g g') (entry : String × String) :
    Grown e (g ++ [entry]) (g' ++ [entry]) := by
  obtain ⟨earlier, later, rfl, rfl⟩ := h
  exact ⟨earlier, later ++ [entry], by simp, by simp⟩

theorem lookup (h : Grown e g g') {name : String} (hname : name ≠ e.1) :
    List.lookup name g' = List.lookup name g := by
  obtain ⟨earlier, later, rfl, rfl⟩ := h
  have hne : (name == e.1) = false := beq_eq_false_iff_ne.mpr hname
  rw [List.lookup_append, List.lookup_append, List.lookup_cons, hne]

theorem has (h : Grown e g g') {name : String} (hname : name ≠ e.1) :
    g'.has name = g.has name := by
  rw [Given.has, Given.has, h.lookup hname]

theorem has_own (h : Grown e g g') : g'.has e.1 = true := by
  obtain ⟨earlier, later, -, rfl⟩ := h
  rw [Given.has, List.lookup_append, List.lookup_cons_self]
  cases List.lookup e.1 earlier <;> rfl

theorem all (h : Grown e g g') {name : String} (hname : name ≠ e.1) :
    g'.all name = g.all name := by
  obtain ⟨earlier, later, rfl, rfl⟩ := h
  have hne : (e.1 == name) = false := beq_eq_false_iff_ne.mpr hname.symm
  rw [Given.all, Given.all, List.filter_append, List.filter_append,
    List.filter_cons_of_neg (by simp [hne])]

end Given.Grown

/-- What a level has taken in the end. -/
def Scan.given? : Scan → Option Given
  | done given _ => some given
  | command given _ _ => some given
  | asked _ => none
  | wrong => none

/-- A property of what is taken, and of the option that waits for its value, that no argument of
the level can end. -/
structure Level.Keeps (l : Level) (holds : Given → Option Opt → Prop) : Prop where
  wait : ∀ {given : Given} {o : Opt}, o ∈ l.options → holds given none → holds given (some o)
  taken : ∀ {given : Given} {o : Opt} {value : String}, o ∈ l.options →
    (o.arity = .flag ∨ o.accepts value = true) → holds given none →
    holds (given ++ [(o.name, value)]) none
  value : ∀ {given : Given} {o : Opt} {value : String}, o.accepts value = true →
    holds given (some o) → holds (given ++ [(o.name, value)]) none

theorem Level.given_of_finish {l : Level} {given g : Given} {paths : List String}
    (h : g ∈ (l.finish given paths).given?) : given = g := by
  rw [finish] at h
  split_ifs at h
  · exact Option.some.inj h
  · cases h

/-- What every argument keeps, the whole reading keeps. -/
theorem Level.Keeps.scan {l : Level} {holds : Given → Option Opt → Prop} (hl : l.Keeps holds)
    {given : Given} {waiting : Option Opt} (h : holds given waiting) (paths args : List String) :
    ∀ g ∈ (l.scan given paths waiting args).given?, holds g none := by
  have hwrong : ∀ g ∈ Scan.wrong.given?, holds g none := fun g hg => by cases hg
  induction args generalizing given paths waiting with
  | nil =>
    rw [Level.scan_nil]
    cases waiting with
    | none => exact fun g hg => given_of_finish hg ▸ h
    | some o => exact hwrong
  | cons a later ih =>
    rw [Level.scan_cons]
    cases waiting with
    | some o =>
      rcases l.effect_some o a with ⟨haccepts, heffect⟩ | heffect
      · rw [heffect]
        exact ih (hl.value haccepts h) paths
      · rw [heffect]
        exact hwrong
    | none =>
      rcases l.effect_none a with
        ⟨o, ho, value, -, heffect⟩ | ⟨-, heffect⟩ | heffect | heffect | ⟨q, heffect⟩ | heffect
      · rw [heffect]
        rcases o.effect_cases value with
          ⟨hflag, -, hoption⟩ | ⟨-, hoption⟩ | ⟨v, -, haccepts, hoption⟩ | hoption
        · rw [hoption, proceed]
          split_ifs
          · exact hwrong
          · exact ih (hl.taken ho (.inl hflag) h) paths
        · rw [hoption, proceed]
          split_ifs
          · exact hwrong
          · exact ih (hl.wait ho h) paths
        · rw [hoption, proceed]
          split_ifs
          · exact hwrong
          · exact ih (hl.taken ho (.inr haccepts) h) paths
        · rw [hoption]
          exact hwrong
      · rw [heffect]
        exact fun g hg => given_of_finish hg ▸ h
      · rw [heffect]
        exact fun g hg => Option.some.inj hg ▸ h
      · rw [heffect, proceed]
        split_ifs
        · exact ih h _
        · exact hwrong
      · rw [heffect]
        exact fun g hg => by cases hg
      · rw [heffect]
        exact hwrong

end Census.Cli
