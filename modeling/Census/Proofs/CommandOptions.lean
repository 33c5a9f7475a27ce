import Mathlib
import Census.Cli.Invocation
import Census.Proofs.ArgumentEffects

/-!
Options on a command line: how one with its value attached is read, and that a level takes from
its arguments only what its options accept. A configuration file that is named is a path.
-/

namespace Census.Cli

theorem nameAndValue_append {name : List Char} (hname : '=' ∉ name) (value : List Char) :
    nameAndValue (name ++ '=' :: value) =
      .long (String.ofList name) (some (String.ofList value)) := by
  have hkeep : ∀ c ∈ name, (c != '=') = true := by
    intro c hc
    exact bne_iff_ne.mpr fun h => hname (h ▸ hc)
  have hdrop : (name ++ '=' :: value).dropWhile (· != '=') = '=' :: value := by
    rw [List.dropWhile_append_of_pos hkeep]
    rfl
  have htake : (name ++ '=' :: value).takeWhile (· != '=') = name := by
    rw [List.takeWhile_append_of_pos hkeep]
    simp
  rw [nameAndValue, hdrop, htake]

/-- An option with its value attached. -/
def attached (name value : String) : String :=
  "--" ++ name ++ "=" ++ value

theorem Shape.ofArgument_dashes {a : String} {c : Char} {cs : List Char}
    (h : a.toList = '-' :: '-' :: c :: cs) : ofArgument a = nameAndValue (c :: cs) := by
  rw [ofArgument, h]
  rfl

theorem Shape.ofArgument_attached {name : String} (hname : '=' ∉ name.toList) (value : String) :
    ofArgument (attached name value) = .long name (some value) := by
  have hchars : (attached name value).toList =
      '-' :: '-' :: (name.toList ++ '=' :: value.toList) := by
    simp [attached]
  obtain ⟨c, cs, hcs⟩ := List.exists_cons_of_ne_nil
    (List.append_ne_nil_of_right_ne_nil name.toList (List.cons_ne_nil '=' value.toList))
  rw [hcs] at hchars
  rw [ofArgument_dashes hchars, ← hcs, nameAndValue_append hname, String.ofList_toList,
    String.ofList_toList]

section Scanning

variable {l : Level} {given : Given} {paths : List String} {a : String} {later : List String}

theorem Level.scan_flag {o : Opt} {a : String}
    (hfind : l.options.find? (fun p => p.name == o.name) = some o) (hflag : o.arity = .flag)
    (hquestion : Question.ofName? o.name = none) (ha : Shape.ofArgument a = .long o.name none)
    (hnew : given.has o.name = false) (later : List String) :
    l.scan given paths none (a :: later) = l.scan (given ++ [(o.name, "")]) paths none later := by
  rw [scan_option ha (question?_eq_none hquestion) hfind]
  simp [hflag, hnew]

/-- What has been taken belongs to an option that may be given so. -/
def Level.Accepted (l : Level) (given : Given) : Prop :=
  ∀ e ∈ given, ∃ o ∈ l.options, o.name = e.1 ∧ (o.arity = .flag ∨ o.accepts e.2 = true)

theorem Level.Accepted.concat (h : l.Accepted given) {o : Opt} (ho : o ∈ l.options)
    {value : String} (hvalue : o.arity = .flag ∨ o.accepts value = true) :
    l.Accepted (given ++ [(o.name, value)]) := by
  intro e he
  rcases List.mem_append.mp he with he | he
  · exact h e he
  · rw [List.mem_singleton.mp he]
    exact ⟨o, ho, rfl, hvalue⟩

end Scanning

end Census.Cli
