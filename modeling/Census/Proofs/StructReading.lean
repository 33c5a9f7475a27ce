import Mathlib
import Census.Outline.Reader
import Census.Proofs.Prelude

/-!
What the reader of a struct makes of a record. One lemma says what reading an entry can do; from it
follow, for whole records, which of them are taken and where the values end up.
-/

namespace Census.Reader

variable {α β : Type}

/-- Some value of the field's type is written here. -/
def Field.Takes (f : Field α) (o : Outline) : Prop :=
  ∃ a b, f.read o a = .ok b

/-- Whether a value is taken does not depend on what has been read before. -/
def Field.Steady (f : Field α) : Prop :=
  ∀ o, f.Takes o → ∀ a, ∃ b, f.read o a = .ok b

theorem Field.make_read_eq_ok_iff {name : String} {required : Bool} {read : Reader β}
    {set : β → α → α} {o : Outline} {a b : α} :
    (Field.make name required read set).read o a = .ok b ↔ ∃ v, read o = .ok v ∧ set v a = b :=
  map_eq_ok_iff

theorem Field.steady_make (name : String) (required : Bool) (read : Reader β)
    (set : β → α → α) : (Field.make name required read set).Steady := by
  intro o htakes a
  obtain ⟨_, _, hread⟩ := htakes
  obtain ⟨v, hv, -⟩ := make_read_eq_ok_iff.mp hread
  exact ⟨set v a, make_read_eq_ok_iff.mpr ⟨v, hv, rfl⟩⟩

theorem Field.make_takes_iff {name : String} {required : Bool} {read : Reader β}
    {set : β → α → α} {o : Outline} (a : α) :
    (Field.make name required read set).Takes o ↔ ∃ v, read o = .ok v := by
  constructor
  · rintro ⟨_, _, hread⟩
    obtain ⟨v, hv, -⟩ := make_read_eq_ok_iff.mp hread
    exact ⟨v, hv⟩
  · rintro ⟨v, hv⟩
    exact ⟨a, set v a, make_read_eq_ok_iff.mpr ⟨v, hv, rfl⟩⟩

/-- If this is the field of the name, `get` holds what it was read as; if not, it leaves `get`
alone. -/
structure Field.Keeps (f : Field α) (name : String) (read : Reader β) (get : α → β) : Prop where
  own : f.name = name → ∀ o a b, f.read o a = .ok b → read o = .ok (get b)
  other : f.name ≠ name → ∀ o a b, f.read o a = .ok b → get b = get a

@[simp]
theorem Field.keeps_own {name : String} {required : Bool} {read : Reader β} {set : β → α → α}
    {get : α → β} (h : ∀ v a, get (set v a) = v) :
    (Field.make name required read set).Keeps name read get where
  own _ o a b hread := by
    obtain ⟨v, hv, rfl⟩ := make_read_eq_ok_iff.mp hread
    rw [h, hv]
  other hne := absurd rfl hne

@[simp]
theorem Field.keeps_other {γ : Type} {name other : String} {required : Bool} {read : Reader β}
    {read' : Reader γ} {set : γ → α → α} {get : α → β} (hne : other ≠ name)
    (h : ∀ v a, get (set v a) = get a) :
    (Field.make other required read' set).Keeps name read get where
  own heq := absurd heq hne
  other _ o a b hread := by
    obtain ⟨v, -, rfl⟩ := make_read_eq_ok_iff.mp hread
    exact h v a

namespace Struct

variable {s : Struct α}

/-- A struct that refuses other keys and whose fields do not get in each other's way. -/
structure Regular (s : Struct α) : Prop where
  strict : s.strict = true
  names : s.fieldNames.Nodup
  steady : ∀ f ∈ s.fields, f.Steady

theorem Regular.eq_of_name_eq (hs : s.Regular) {f g : Field α} (hf : f ∈ s.fields)
    (hg : g ∈ s.fields) (h : f.name = g.name) : f = g :=
  List.inj_on_of_nodup_map hs.names hf hg h

theorem Regular.find?_eq_some_iff (hs : s.Regular) {key : String} {f : Field α} :
    s.fields.find? (fun g => g.name == key) = some f ↔ f ∈ s.fields ∧ f.name = key :=
  find?_key_eq_some_iff hs.names

/-- What reading one entry can do: its key is a field not met before, and the field takes its
value. -/
theorem readEntries_cons_eq_ok_iff (hs : s.Regular) {seen : List String} {a : α}
    {e : Option String × Outline} {later : List (Option String × Outline)}
    {r : List String × α} :
    s.readEntries seen a (e :: later) = .ok r ↔
      ∃ f ∈ s.fields, ∃ b, e.1 = some f.name ∧ f.name ∉ seen ∧ f.read e.2 a = .ok b ∧
        s.readEntries (f.name :: seen) b later = .ok r := by
  obtain ⟨key?, o⟩ := e
  cases key? with
  | none => simp [readEntries]
  | some key =>
    -- A key that is no field is refused by a strict struct, a repeated one by any.
    cases hfind : s.fields.find? fun f => f.name == key with
    | none =>
      have hunknown : ∀ f ∈ s.fields, f.name ≠ key := by simpa using hfind
      simp only [readEntries, hfind, hs.strict, if_true, reduceCtorEq, false_iff]
      rintro ⟨f, hf, -, hkey, -⟩
      exact hunknown f hf (Option.some.inj hkey).symm
    | some f =>
      obtain ⟨hf, rfl⟩ := hs.find?_eq_some_iff.mp hfind
      simp only [readEntries, hfind]
      split_ifs with hseen
      · simp only [false_iff]
        rintro ⟨g, -, -, hkey, hnot, -⟩
        exact hnot (Option.some.inj hkey ▸ hseen)
      · rw [bind_eq_ok_iff]
        constructor
        · rintro ⟨b, hread, hlater⟩
          exact ⟨f, hf, b, rfl, hseen, hread, hlater⟩
        · rintro ⟨g, hg, b, hkey, -, hread, hlater⟩
          obtain rfl : f = g := hs.eq_of_name_eq hf hg (Option.some.inj hkey)
          exact ⟨b, hread, hlater⟩

/-- The key names a field and the value can be read. -/
def Admits (s : Struct α) (e : Option String × Outline) : Prop :=
  ∃ f ∈ s.fields, e.1 = some f.name ∧ f.Takes e.2

theorem readEntries_succeeds_iff (hs : s.Regular) (seen : List String) (a : α)
    (entries : List (Option String × Outline)) :
    (∃ r, s.readEntries seen a entries = .ok r) ↔
      (entries.map Prod.fst).Nodup ∧ (∀ e ∈ entries, s.Admits e) ∧
        ∀ key ∈ seen, some key ∉ entries.map Prod.fst := by
  -- On the entries; what has been seen grows with them, and steadiness makes `a` irrelevant.
  induction entries generalizing seen a with
  | nil => simp [readEntries]
  | cons e later ih =>
    constructor
    · rintro ⟨r, hr⟩
      obtain ⟨f, hf, b, hkey, hseen, hread, hlater⟩ := (readEntries_cons_eq_ok_iff hs).mp hr
      obtain ⟨hnodup, hadmits, hfresh⟩ := (ih _ _).mp ⟨r, hlater⟩
      have hnew : e.1 ∉ later.map Prod.fst := hkey ▸ hfresh f.name List.mem_cons_self
      refine ⟨List.nodup_cons.mpr ⟨hnew, hnodup⟩, ?_, ?_⟩
      · exact List.forall_mem_cons.mpr ⟨⟨f, hf, hkey, a, b, hread⟩, hadmits⟩
      · intro key hmem hkeys
        rcases List.mem_cons.mp hkeys with heq | hmem'
        · rw [hkey] at heq
          exact hseen (Option.some.inj heq ▸ hmem)
        · exact hfresh key (List.mem_cons_of_mem _ hmem) hmem'
    · rintro ⟨hnodup, hadmits, hfresh⟩
      obtain ⟨hnew, hnodup⟩ := List.nodup_cons.mp hnodup
      obtain ⟨⟨f, hf, hkey, htakes⟩, hadmits⟩ := List.forall_mem_cons.mp hadmits
      obtain ⟨b, hread⟩ := hs.steady f hf e.2 htakes a
      have hseen : f.name ∉ seen := by
        intro hmem
        apply hfresh f.name hmem
        rw [List.map_cons, hkey]
        exact List.mem_cons_self
      have hlater : ∀ key ∈ f.name :: seen, some key ∉ later.map Prod.fst := by
        intro key hmem hkeys
        rcases List.mem_cons.mp hmem with rfl | hmem
        · exact hnew (hkey ▸ hkeys)
        · exact hfresh key hmem (List.mem_cons_of_mem _ hkeys)
      obtain ⟨r, hr⟩ := (ih (f.name :: seen) b).mpr ⟨hnodup, hadmits, hlater⟩
      exact ⟨r, (readEntries_cons_eq_ok_iff hs).mpr ⟨f, hf, b, hkey, hseen, hread, hr⟩⟩

/-- The fields read are those that the keys name. -/
theorem mem_seen_of_readEntries (hs : s.Regular) {seen : List String} {a : α}
    {entries : List (Option String × Outline)} {r : List String × α}
    (h : s.readEntries seen a entries = .ok r) (key : String) :
    key ∈ r.1 ↔ key ∈ seen ∨ some key ∈ entries.map Prod.fst := by
  induction entries generalizing seen a with
  | nil =>
    obtain rfl : (seen, a) = r := Except.ok.inj h
    simp
  | cons e later ih =>
    obtain ⟨f, -, b, hkey, -, -, hlater⟩ := (readEntries_cons_eq_ok_iff hs).mp h
    rw [ih hlater, List.map_cons, hkey, List.mem_cons, List.mem_cons, Option.some_inj]
    tauto

theorem complete_eq_ok_iff {seen : List String} {a b : α} :
    s.complete seen a = .ok b ↔ a = b ∧ ∀ f ∈ s.fields, f.required = true → f.name ∈ seen := by
  rw [complete]
  cases hfind : s.fields.find? fun f => f.required && !seen.contains f.name with
  | some f =>
    have hf : f ∈ s.fields := List.mem_of_find?_eq_some hfind
    have hmissing : f.required = true ∧ f.name ∉ seen := by simpa using List.find?_some hfind
    simp only [reduceCtorEq, false_iff]
    rintro ⟨-, hall⟩
    exact hmissing.2 (hall f hf hmissing.1)
  | none =>
    have hall : ∀ f ∈ s.fields, f.required = true → f.name ∈ seen := by simpa using hfind
    simp only [Except.ok.injEq]
    exact ⟨fun h => ⟨h, hall⟩, fun h => h.1⟩

theorem readRecord_eq_ok_iff (hs : s.Regular) {entries : List (Option String × Outline)} {b : α} :
    s.readRecord entries = .ok b ↔
      (∃ seen, s.readEntries [] s.initial entries = .ok (seen, b)) ∧
        ∀ f ∈ s.fields, f.required = true → some f.name ∈ entries.map Prod.fst := by
  rw [readRecord, bind_eq_ok_iff]
  constructor
  · rintro ⟨⟨seen, a⟩, hr, hcomplete⟩
    obtain ⟨rfl, hrequired⟩ := complete_eq_ok_iff.mp hcomplete
    refine ⟨⟨seen, hr⟩, fun f hf hrequires => ?_⟩
    simpa using (mem_seen_of_readEntries hs hr f.name).mp (hrequired f hf hrequires)
  · rintro ⟨⟨seen, hr⟩, hrequired⟩
    refine ⟨(seen, b), hr, complete_eq_ok_iff.mpr ⟨rfl, fun f hf hrequires => ?_⟩⟩
    exact (mem_seen_of_readEntries hs hr f.name).mpr (.inr (hrequired f hf hrequires))

/-- The records that are taken: no key twice, every key a field with a value that it can read,
and no required field missing. -/
theorem readRecord_succeeds_iff (hs : s.Regular) (entries : List (Option String × Outline)) :
    (∃ b, s.readRecord entries = .ok b) ↔
      (entries.map Prod.fst).Nodup ∧ (∀ e ∈ entries, s.Admits e) ∧
        ∀ f ∈ s.fields, f.required = true → some f.name ∈ entries.map Prod.fst := by
  have hentries := readEntries_succeeds_iff hs [] s.initial entries
  simp only [List.not_mem_nil, false_implies, implies_true, and_true] at hentries
  simp only [readRecord_eq_ok_iff hs, exists_and_right, ← and_assoc, ← hentries]
  constructor
  · rintro ⟨⟨b, seen, hr⟩, hrequired⟩
    exact ⟨⟨(seen, b), hr⟩, hrequired⟩
  · rintro ⟨⟨⟨seen, b⟩, hr⟩, hrequired⟩
    exact ⟨⟨b, seen, hr⟩, hrequired⟩

/-- The part `get` of the struct holds what the field of this name was read as, and no other field
touches it. -/
def Keeps (s : Struct α) (name : String) (read : Reader β) (get : α → β) : Prop :=
  ∀ f ∈ s.fields, f.Keeps name read get

theorem Keeps.get_readEntries_of_absent {name : String} {read : Reader β} {get : α → β}
    (hk : s.Keeps name read get) (hs : s.Regular) {seen : List String} {a : α}
    {entries : List (Option String × Outline)} {r : List String × α}
    (h : s.readEntries seen a entries = .ok r) (habsent : some name ∉ entries.map Prod.fst) :
    get r.2 = get a := by
  induction entries generalizing seen a with
  | nil =>
    obtain rfl : (seen, a) = r := Except.ok.inj h
    rfl
  | cons e later ih =>
    obtain ⟨f, hf, b, hkey, -, hread, hlater⟩ := (readEntries_cons_eq_ok_iff hs).mp h
    rw [List.map_cons, List.mem_cons, not_or, hkey] at habsent
    have hne : f.name ≠ name := fun hname => habsent.1 (congrArg some hname.symm)
    rw [ih hlater habsent.2, (hk f hf).other hne _ _ _ hread]

theorem Keeps.get_readEntries_of_mem {name : String} {read : Reader β} {get : α → β}
    (hk : s.Keeps name read get) (hs : s.Regular) {seen : List String} {a : α}
    {entries : List (Option String × Outline)} {r : List String × α}
    (h : s.readEntries seen a entries = .ok r) {o : Outline} (ho : (some name, o) ∈ entries) :
    read o = .ok (get r.2) := by
  induction entries generalizing seen a with
  | nil => cases ho
  | cons e later ih =>
    have hnodup := ((readEntries_succeeds_iff hs seen a _).mp ⟨r, h⟩).1
    obtain ⟨f, hf, b, hkey, -, hread, hlater⟩ := (readEntries_cons_eq_ok_iff hs).mp h
    rcases List.mem_cons.mp ho with rfl | ho
    · have habsent : some name ∉ later.map Prod.fst := (List.nodup_cons.mp hnodup).1
      rw [hk.get_readEntries_of_absent hs hlater habsent]
      exact (hk f hf).own (Option.some.inj hkey).symm _ _ _ hread
    · exact ih hlater ho

theorem Keeps.get_of_mem {name : String} {read : Reader β} {get : α → β}
    (hk : s.Keeps name read get) (hs : s.Regular) {entries : List (Option String × Outline)}
    {b : α} (h : s.readRecord entries = .ok b) {o : Outline} (ho : (some name, o) ∈ entries) :
    read o = .ok (get b) := by
  obtain ⟨⟨seen, hr⟩, -⟩ := (readRecord_eq_ok_iff hs).mp h
  exact hk.get_readEntries_of_mem hs hr ho

theorem Keeps.get_of_absent {name : String} {read : Reader β} {get : α → β}
    (hk : s.Keeps name read get) (hs : s.Regular) {entries : List (Option String × Outline)}
    {b : α} (h : s.readRecord entries = .ok b) (habsent : some name ∉ entries.map Prod.fst) :
    get b = get s.initial := by
  obtain ⟨⟨seen, hr⟩, -⟩ := (readRecord_eq_ok_iff hs).mp h
  exact hk.get_readEntries_of_absent hs hr habsent

/-- Reads values into fields, one after another. -/
def fill : List (Field α) → List Outline → α → Except ReadError α
  | f :: fields, o :: items, a => do
    let b ← f.read o a
    fill fields items b
  | _, _, a => .ok a

theorem fill_make {name : String} {required : Bool} {read : Reader β} {set : β → α → α}
    {o : Outline} {v : β} (h : read o = .ok v) (fields : List (Field α)) (items : List Outline)
    (a : α) :
    fill (.make name required read set :: fields) (o :: items) a = fill fields items (set v a) := by
  rw [fill, Field.make_read_eq_ok_iff.mpr ⟨v, h, rfl⟩]
  rfl

/-- A key that is a field not met before is read by its field, be the struct strict or not. -/
theorem readEntries_cons_of_field (hnames : s.fieldNames.Nodup) {f : Field α} (hf : f ∈ s.fields)
    {seen : List String} (hseen : f.name ∉ seen) {o : Outline} {a b : α}
    (hread : f.read o a = .ok b) (later : List (Option String × Outline)) :
    s.readEntries seen a ((some f.name, o) :: later) = s.readEntries (f.name :: seen) b later := by
  have hfind : s.fields.find? (fun g => g.name == f.name) = some f :=
    (find?_key_eq_some_iff hnames).mpr ⟨hf, rfl⟩
  simp only [readEntries, hfind, if_neg hseen, hread]
  rfl

theorem readEntries_of_fill (hnames : s.fieldNames.Nodup) {fields : List (Field α)}
    (hfields : ∀ f ∈ fields, f ∈ s.fields) (hnodup : (fields.map Field.name).Nodup)
    {seen : List String} (hseen : ∀ f ∈ fields, f.name ∉ seen) {items : List Outline}
    (hlength : items.length = fields.length) {a b : α} (h : fill fields items a = .ok b) :
    s.readEntries seen a (((fields.map Field.name).zip items).map fun e => (some e.1, e.2)) =
      .ok ((fields.map Field.name).reverse ++ seen, b) := by
  -- On the fields, each of which has one item; the names to come have not been seen yet.
  induction fields generalizing seen items a with
  | nil =>
    obtain rfl : a = b := Except.ok.inj h
    rfl
  | cons f fields ih =>
    cases items with
    | nil => cases hlength
    | cons o items =>
      obtain ⟨hf, hfields⟩ := List.forall_mem_cons.mp hfields
      obtain ⟨hnew, hnodup⟩ := List.nodup_cons.mp hnodup
      obtain ⟨hunseen, hseen⟩ := List.forall_mem_cons.mp hseen
      obtain ⟨a', hread, hlater⟩ := bind_eq_ok_iff.mp h
      have hseen' : ∀ g ∈ fields, g.name ∉ f.name :: seen := by
        intro g hg
        rw [List.mem_cons, not_or]
        exact ⟨fun heq => hnew (heq ▸ List.mem_map_of_mem hg), hseen g hg⟩
      have hrest := ih hfields hnodup hseen' (Nat.succ.inj hlength) hlater
      rw [List.map_cons, List.zip_cons_cons, List.map_cons,
        readEntries_cons_of_field hnames hf hunseen hread, hrest]
      simp

/-- A record that gives every field, in order, is read field by field. -/
theorem readRecord_of_fill (hnames : s.fieldNames.Nodup) {items : List Outline}
    (hlength : items.length = s.fields.length) {b : α}
    (h : fill s.fields items s.initial = .ok b) :
    s.readRecord ((s.fieldNames.zip items).map fun e => (some e.1, e.2)) = .ok b := by
  have hentries := readEntries_of_fill hnames (fun _ hf => hf) hnames
    (fun _ _ => List.not_mem_nil) hlength h
  refine bind_eq_ok_iff.mpr ⟨_, hentries, complete_eq_ok_iff.mpr ⟨rfl, fun f hf _ => ?_⟩⟩
  simpa using List.mem_map_of_mem hf

theorem readItems_of_readEntries (hs : s.Regular) (manner : Manner) {fields : List (Field α)}
    (hfields : ∀ f ∈ fields, f ∈ s.fields) {items : List Outline}
    (hlength : items.length ≤ fields.length)
    (hoptional : ∀ f ∈ fields.drop items.length, f.required = false) {seen : List String} {a : α}
    {r : List String × α}
    (h : s.readEntries seen a (((fields.map Field.name).zip items).map fun e => (some e.1, e.2)) =
      .ok r) (n : Nat) : s.readItems manner n a fields items = .ok r.2 := by
  -- On the fields: each takes the next item, and those behind the last item can do without one.
  induction fields generalizing items seen a n with
  | nil =>
    obtain rfl : items = [] := List.eq_nil_of_length_eq_zero (Nat.le_zero.mp hlength)
    obtain rfl : (seen, a) = r := Except.ok.inj h
    cases manner <;> rfl
  | cons f fields ih =>
    obtain ⟨hf, hfields⟩ := List.forall_mem_cons.mp hfields
    cases items with
    | nil =>
      obtain ⟨hrequired, hlater⟩ := List.forall_mem_cons.mp hoptional
      have hentries : s.readEntries seen a
          (((fields.map Field.name).zip []).map fun e => (some e.1, e.2)) = .ok r := by
        rw [List.zip_nil_right] at h ⊢
        exact h
      have hrest := ih hfields (Nat.zero_le _) (by exact hlater) hentries (n + 1)
      simpa [readItems, hrequired] using hrest
    | cons o items =>
      rw [List.map_cons, List.zip_cons_cons, List.map_cons, readEntries_cons_eq_ok_iff hs] at h
      obtain ⟨g, hg, b, hkey, -, hread, hlater⟩ := h
      obtain rfl : f = g := hs.eq_of_name_eq hf hg (Option.some.inj hkey)
      have hrest := ih hfields (Nat.le_of_succ_le_succ hlength) hoptional hlater (n + 1)
      exact bind_eq_ok_iff.mpr ⟨b, hread, hrest⟩

/-- The values of a record that gives the first fields in order are read without their names as the
record is, whatever they come from. -/
theorem readItems_of_readRecord (hs : s.Regular) (manner : Manner) {items : List Outline}
    (hlength : items.length ≤ s.fields.length)
    (hoptional : ∀ f ∈ s.fields.drop items.length, f.required = false) {b : α}
    (h : s.readRecord ((s.fieldNames.zip items).map fun e => (some e.1, e.2)) = .ok b) :
    s.read manner (.list items) = .ok b := by
  obtain ⟨⟨seen, hentries⟩, -⟩ := (readRecord_eq_ok_iff hs).mp h
  exact readItems_of_readEntries hs manner (fun _ hf => hf) hlength hoptional hentries 0

end Struct

end Census.Reader
