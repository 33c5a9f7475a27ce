import Mathlib
import Census.Cli.Invocation
import Census.Proofs.ArgumentEffects

/-!
A flag put right behind the name of a command. It is taken by the level that the name opens, and
everything else on the command line is read as it would be without it.
-/

namespace Census.Cli

/-- What a level has read, with a flag that was given first. -/
def Scan.withFlag (name : String) : Scan → Scan
  | done given paths => done ((name, "") :: given) paths
  | command given word later => command ((name, "") :: given) word later
  | asked q => asked q
  | wrong => wrong

theorem Given.grown_withFlag (name : String) (given : Given) :
    Grown (name, "") given ((name, "") :: given) :=
  ⟨[], given, rfl, rfl⟩

theorem Given.lookup_withFlag {name other : String} (h : other ≠ name) (given : Given) :
    List.lookup other ((name, "") :: given) = List.lookup other given :=
  (grown_withFlag name given).lookup h

theorem Given.has_withFlag {name other : String} (h : other ≠ name) (given : Given) :
    Given.has ((name, "") :: given) other = given.has other :=
  (grown_withFlag name given).has h

theorem Level.finish_withFlag (l : Level) (name : String) (given : Given) (paths : List String) :
    l.finish ((name, "") :: given) paths = (l.finish given paths).withFlag name := by
  rw [finish, finish]
  split_ifs <;> rfl

/-- The option of this name is a flag, and asks no question. -/
structure Level.HasFlag (l : Level) (name : String) : Prop where
  flag : ∀ o ∈ l.options, o.name = name → o.arity = .flag
  known : ∃ o ∈ l.options, o.name = name
  no_question : Question.ofName? name = none

theorem Level.HasFlag.find? {l : Level} {name : String} (h : l.HasFlag name) :
    ∃ o, l.options.find? (fun o => o.name == name) = some o ∧ o.arity = .flag := by
  obtain ⟨o, ho, hname⟩ := h.known
  have hsome : (l.options.find? fun o => o.name == name).isSome :=
    List.find?_isSome.mpr ⟨o, ho, by simpa using hname⟩
  obtain ⟨o', ho'⟩ := Option.isSome_iff_exists.mp hsome
  have hname' : o'.name = name := by simpa using List.find?_some ho'
  exact ⟨o', ho', h.flag o' (List.mem_of_find?_eq_some ho') hname'⟩

/-- The option named is not the flag that was taken: as a flag it may not come with a value, and
without one it does not come again. -/
theorem Level.proceed_withFlag {l : Level} {name : String} (hl : l.HasFlag name) {o : Opt}
    (ho : o ∈ l.options) {value : Option String} {later : List String}
    (hvalue : Shape.long o.name value ≠ .long name none)
    (hlater : ∀ given paths waiting,
      l.scan ((name, "") :: given) paths waiting later =
        (l.scan given paths waiting later).withFlag name)
    (given : Given) (paths : List String) :
    l.proceed ((name, "") :: given) paths later (o.effect value) =
      (l.proceed given paths later (o.effect value)).withFlag name := by
  rcases o.effect_cases value with
    ⟨-, rfl, heffect⟩ | ⟨hflag, heffect⟩ | ⟨v, hflag, -, heffect⟩ | heffect
  · have hname : o.name ≠ name := fun h => hvalue (h ▸ rfl)
    rw [heffect, proceed, proceed, Given.has_withFlag hname]
    split_ifs
    · rfl
    · exact hlater (given ++ [(o.name, "")]) paths none
  · have hname : o.name ≠ name := fun h => hflag (hl.flag o ho h)
    rw [heffect, proceed, proceed, Given.has_withFlag hname]
    split_ifs
    · rfl
    · exact hlater given paths (some o)
  · have hname : o.name ≠ name := fun h => hflag (hl.flag o ho h)
    rw [heffect, proceed, proceed, Given.has_withFlag hname]
    split_ifs
    · rfl
    · exact hlater (given ++ [(o.name, v)]) paths none
  · rw [heffect]
    rfl

/-- Having taken a flag makes no difference to reading on, unless the flag comes again. -/
theorem Level.scan_withFlag {l : Level} {name : String} (hl : l.HasFlag name) {args : List String}
    (hargs : ∀ b ∈ args, Shape.ofArgument b ≠ .long name none)
    (given : Given) (paths : List String) (waiting : Option Opt) :
    l.scan ((name, "") :: given) paths waiting args =
      (l.scan given paths waiting args).withFlag name := by
  induction args generalizing given paths waiting with
  | nil =>
    rw [scan_nil, scan_nil]
    split_ifs
    · exact l.finish_withFlag name given paths
    · rfl
  | cons a later ih =>
    have hlater := ih fun b hb => hargs b (List.mem_cons_of_mem a hb)
    rw [scan_cons, scan_cons]
    cases waiting with
    | some o =>
      rcases l.effect_some o a with ⟨-, heffect⟩ | heffect
      · rw [heffect]
        exact hlater (given ++ [(o.name, a)]) paths none
      · rw [heffect]
        rfl
    | none =>
      rcases l.effect_none a with
        ⟨o, ho, value, hshape, heffect⟩ | ⟨-, heffect⟩ | heffect | heffect | ⟨q, heffect⟩ | heffect
      · rw [heffect]
        exact proceed_withFlag hl ho (hshape ▸ hargs a List.mem_cons_self) hlater given paths
      · rw [heffect]
        exact l.finish_withFlag name given _
      · rw [heffect]
        rfl
      · rw [heffect, proceed, proceed]
        split_ifs
        · exact hlater given _ none
        · rfl
      · rw [heffect]
        rfl
      · rw [heffect]
        rfl

/-- A flag in front of all other arguments of a level is simply added to what they give. -/
theorem Level.read_flag_cons {l : Level} {name a : String} {args : List String}
    (hl : l.HasFlag name) (ha : Shape.ofArgument a = .long name none)
    (hargs : ∀ b ∈ args, Shape.ofArgument b ≠ .long name none) :
    l.read (a :: args) = (l.read args).withFlag name := by
  obtain ⟨o, ho, hflag⟩ := hl.find?
  have hnone : Given.has [] name = false := rfl
  have hstart : l.scan [] [] none (a :: args) = l.scan [(name, "")] [] none args := by
    rw [scan_option ha (question?_eq_none hl.no_question) ho, if_pos hflag]
    simp [hnone]
  rw [read, hstart]
  exact scan_withFlag hl hargs [] [] none

theorem nameAndValue_eq_long_none {cs : List Char} {name : String}
    (h : nameAndValue cs = .long name none) : cs = name.toList := by
  rw [nameAndValue] at h
  split at h
  · obtain ⟨rfl, -⟩ := Shape.long.inj h
    rw [String.toList_ofList]
  · cases (Shape.long.inj h).2

/-- An option without a value is written as two dashes and its name. -/
theorem Shape.eq_of_ofArgument_eq_long {a name : String} (h : ofArgument a = .long name none) :
    a = "--" ++ name := by
  rw [ofArgument] at h
  split at h
  · cases h
  · rename_i cs _ hchars
    apply String.toList_inj.mp
    rw [hchars, nameAndValue_eq_long_none h, String.toList_append]
    rfl
  · cases h
  · cases h

/-- A flag that is no option of every level leaves output, quiet switch and configuration alone. -/
theorem invocation_withFlag {name : String} (hname : name ∉ globals.map Opt.name) (given : Given)
    (outer : List Given) (command : Command) :
    invocation (((name, "") :: given) :: outer) command = invocation (given :: outer) command := by
  have hne {other : String} (h : other ∈ globals.map Opt.name) : other ≠ name :=
    fun he => hname (he ▸ h)
  have houtput : "output" ≠ name := hne (by decide)
  have hquiet : "quiet" ≠ name := hne (by decide)
  have hconfig : "config" ≠ name := hne (by decide)
  simp only [invocation, List.findSome?_cons, List.any_cons, Given.lookup_withFlag houtput,
    Given.has_withFlag hquiet, Given.lookup_withFlag hconfig]

end Census.Cli
