import LayeredFlags.Proofs.Chain.Shape

/-!
# Names of registered flags

In a set that was built by registering flags, the names of every flag are admissible and no two
flags share one.  Nothing that is done to a chain afterwards changes this, as names are part of the
shape.
-/

namespace LayeredFlags

/-! ## Admissible names -/

namespace FlagNames

variable {n m : FlagNames} {c : Char} {l : String}

/-- Admissible names are admissible one by one, and there is at least one. -/
theorem allowed_of_problem? (h : n.problem? = none) :
    (∀ c, n.short = some c → shortAllowed c = true) ∧
      (∀ l, n.long = some l → longAllowed l = true) ∧ (n.long = none → n.short ≠ none) := by
  obtain ⟨short, long⟩ := n
  cases short with
  | none =>
    cases long with
    | none => cases h
    | some l =>
      simp only [problem?] at h
      split_ifs at h with hl
      simp [hl]
  | some c =>
    cases long with
    | none =>
      simp only [problem?] at h
      split_ifs at h with hc
      simp [hc]
    | some l =>
      simp only [problem?] at h
      split_ifs at h with hc hl he
      simp_all

theorem ne_dash_of_shortAllowed (h : shortAllowed c = true) : c ≠ '-' := by
  rintro rfl
  cases h

theorem ne_eq_sign_of_shortAllowed (h : shortAllowed c = true) : c ≠ '=' := by
  rintro rfl
  cases h

theorem of_longAllowed (h : longAllowed l = true) : l ≠ "" ∧ '=' ∉ l.toList := by
  simp only [longAllowed, Bool.not_eq_true', Bool.or_eq_false_iff] at h
  obtain ⟨⟨⟨hempty, -⟩, heq⟩, -⟩ := h
  constructor
  · rintro rfl
    cases hempty
  · simpa using heq

theorem hasShort_iff : n.hasShort c = true ↔ n.short = some c := beq_iff_eq

theorem hasLong_iff : n.hasLong l = true ↔ n.long = some l := beq_iff_eq

theorem answersTo_iff :
    n.answersTo l = true ↔ n.short.map String.singleton = some l ∨ n.long = some l := by
  unfold answersTo
  rw [Bool.or_eq_true, hasLong_iff]
  cases n.short <;> simp

/-! ## Bare names -/

/-- The bare names that reach a flag: the short one as a text, and the long one. -/
def all (n : FlagNames) : List String :=
  (n.short.map String.singleton).toList ++ n.long.toList

theorem mem_all_iff : l ∈ n.all ↔ n.answersTo l = true := by
  rw [answersTo_iff, all, List.mem_append, Option.mem_toList, Option.mem_toList]

theorem forall_mem_all {p : String → Prop} :
    (∀ l ∈ n.all, p l) ↔
      (∀ c, n.short = some c → p (String.singleton c)) ∧ ∀ l, n.long = some l → p l := by
  simp [all, or_imp, forall_and]

theorem singleChar?_eq_some_iff : singleChar? l = some c ↔ l = String.singleton c := by
  have hchars : l = String.singleton c ↔ l.toList = [c] := by
    rw [← String.toList_inj, String.toList_singleton]
  rw [hchars]
  unfold singleChar?
  split <;> simp_all

/-- A short name runs into the names that answer to it as a text. -/
theorem answersTo_singleton (n : FlagNames) (c : Char) :
    n.answersTo (String.singleton c) =
      (n.hasShort c || n.long.bind singleChar? == some c) := by
  rw [Bool.eq_iff_iff, answersTo_iff, Bool.or_eq_true, hasShort_iff, beq_iff_eq,
    Option.map_eq_some_iff, Option.bind_eq_some_iff]
  simp only [singleChar?_eq_some_iff, String.singleton_inj, exists_eq_right]

/-- A long name runs into the names that answer to it. -/
theorem answersTo_eq (n : FlagNames) (l : String) :
    n.answersTo l = (n.hasLong l || (singleChar? l).any n.hasShort) := by
  rw [Bool.eq_iff_iff, answersTo_iff, Bool.or_eq_true, hasLong_iff, Option.any_eq_true,
    Option.map_eq_some_iff, or_comm]
  refine or_congr_right (exists_congr fun c => ?_)
  rw [singleChar?_eq_some_iff, hasShort_iff, eq_comm (a := l)]
  exact and_comm

/-- A flag runs into those that answer to its short name, and else into those that answer to its
long one. -/
theorem collision?_eq_answersTo (n m : FlagNames) :
    n.collision? m =
      ((m.short.filter fun c => n.answersTo (String.singleton c)).map dashedShort).or
        ((m.long.filter n.answersTo).map dashedLong) := by
  simp only [collision?, ← answersTo_singleton, ← answersTo_eq]
  cases m.short.filter fun c => n.answersTo (String.singleton c) <;> rfl

/-- Flags run into each other when they share a bare name. -/
theorem collision?_eq_none_iff : n.collision? m = none ↔ n.all.Disjoint m.all := by
  have hall : n.all.Disjoint m.all ↔ ∀ l ∈ m.all, ¬ n.answersTo l = true := by
    simp only [List.disjoint_right, mem_all_iff]
  rw [hall, forall_mem_all, collision?_eq_answersTo, Option.or_eq_none_iff, Option.map_eq_none_iff,
    Option.map_eq_none_iff, Option.filter_eq_none_iff, Option.filter_eq_none_iff]

/-- Names that do not collide differ as short names and as long ones. -/
theorem ne_of_collision? (h : n.collision? m = none) :
    (∀ c, n.short = some c → m.short ≠ some c) ∧ ∀ l, n.long = some l → m.long ≠ some l := by
  rw [collision?_eq_none_iff] at h
  constructor
  · intro c hn hm
    exact h (a := String.singleton c) (by simp [all, hn]) (by simp [all, hm])
  · intro l hn hm
    exact h (a := l) (by simp [all, hn]) (by simp [all, hm])

end FlagNames

/-! ## Sets -/

/-- The names of every flag are admissible, and no flag runs into an earlier one. -/
structure FlagSet.WellNamed (s : FlagSet) : Prop where
  admissible : ∀ n ∈ s.flags.map Flag.names, n.problem? = none
  apart : (s.flags.map Flag.names).Pairwise fun n m => n.collision? m = none

namespace FlagSet

variable {s t : FlagSet} {d : FlagDecl}

theorem names_of_shape (h : s.shape = t.shape) :
    s.flags.map Flag.names = t.flags.map Flag.names := by
  have key (s : FlagSet) : s.flags.map Flag.names = s.shape.flags.map Prod.fst := by
    unfold shape
    rw [List.map_map]
    rfl
  rw [key, key, h]

theorem wellNamed_of_shape (h : s.shape = t.shape) (ht : t.WellNamed) : s.WellNamed := by
  have hn := names_of_shape h
  exact ⟨hn ▸ ht.admissible, hn ▸ ht.apart⟩

/-- A flag that a set takes has admissible and free names, and stands last in it. -/
theorem of_add (h : s.add d = .ok t) :
    d.names.problem? = none ∧ (∀ f ∈ s.flags, f.names.collision? d.names = none) ∧
      t = { s with flags := s.flags ++ [.ofDecl d] } := by
  unfold add at h
  cases hp : d.names.problem? with
  | some p =>
    simp only [hp] at h
    cases h
  | none =>
    simp only [hp] at h
    split_ifs at h
    split at h
    next => cases h
    next hfree =>
      cases h
      exact ⟨rfl, List.findSome?_eq_none_iff.1 hfree, rfl⟩

theorem wellNamed_of_add (hs : s.WellNamed) (h : s.add d = .ok t) : t.WellNamed := by
  obtain ⟨hp, hfree, rfl⟩ := of_add h
  constructor
  · intro n hn
    rw [List.map_append, List.mem_append, List.map_singleton, List.mem_singleton] at hn
    rcases hn with hn | rfl
    · exact hs.admissible n hn
    · exact hp
  · rw [List.map_append, List.pairwise_append]
    refine ⟨hs.apart, List.pairwise_singleton .., ?_⟩
    intro n hn m hm
    obtain ⟨f, hf, rfl⟩ := List.mem_map.1 hn
    rw [List.map_singleton, List.mem_singleton] at hm
    rw [hm]
    exact hfree f hf

/-- The first flag of a set with one of the names of a flag is that flag. -/
theorem findIdx?_eq_of_wellNamed (hs : s.WellNamed) {i : Nat} {f : Flag} (hf : s.flags[i]? = some f)
    {p : FlagNames → Bool} (hp : p f.names = true)
    (hapart : ∀ n, n.collision? f.names = none → p n = false) :
    s.flags.findIdx? (p ·.names) = some i := by
  obtain ⟨hi, rfl⟩ := List.getElem?_eq_some_iff.1 hf
  rw [List.findIdx?_eq_some_iff_getElem]
  refine ⟨hi, hp, fun j hj => ?_⟩
  have hpair := List.pairwise_iff_getElem.1 hs.apart j i (by rw [List.length_map]; omega)
    (by rwa [List.length_map]) hj
  rw [List.getElem_map, List.getElem_map] at hpair
  simp [hapart _ hpair]

end FlagSet

/-! ## Chains -/

namespace Chain

variable {c d : Chain} {id : FlagId} {f : Flag}

/-- The sets of a chain are well named. -/
def WellNamed (c : Chain) : Prop :=
  ∀ s ∈ c.sets, s.WellNamed

theorem wellNamed_of_shape (h : c.shape = d.shape) (hd : d.WellNamed) : c.WellNamed := by
  intro s hs
  have hmem : s.shape ∈ d.shape := h ▸ List.mem_map_of_mem hs
  obtain ⟨t, ht, e⟩ := List.mem_map.1 hmem
  exact FlagSet.wellNamed_of_shape e.symm (hd t ht)

theorem problem?_of_wellNamed (hw : c.WellNamed) (hf : c.flagAt? id = some f) :
    f.names.problem? = none := by
  obtain ⟨s, hs, hi⟩ := flagAt?_eq_some_iff.1 hf
  have hmem := List.mem_map_of_mem (f := Flag.names) (List.mem_of_getElem? hi)
  exact (hw s (List.mem_of_getElem? hs)).admissible f.names hmem

/-- A flag is located by a name of its own that no nearer set holds. -/
theorem locate_of_wellNamed (hw : c.WellNamed) (hf : c.flagAt? id = some f)
    {p : FlagNames → Bool} (hp : p f.names = true)
    (hapart : ∀ n : FlagNames, n.collision? f.names = none → p n = false)
    (hnear : ∀ s ∈ c.sets.take id.depth, ∀ g ∈ s.flags, p g.names = false) :
    c.locate (p ·.names) = some id := by
  obtain ⟨s, hs, hi⟩ := flagAt?_eq_some_iff.1 hf
  have hw : s.WellNamed := hw s (List.mem_of_getElem? hs)
  exact locate_eq_some_iff.2 ⟨s, hs, FlagSet.findIdx?_eq_of_wellNamed hw hi hp hapart, hnear⟩

theorem locateLong_of_wellNamed (hw : c.WellNamed) (hcompat : c.own.compat = false)
    (hf : c.flagAt? id = some f) {l : String} (hl : f.names.long = some l)
    (hnear : ∀ s ∈ c.sets.take id.depth, ∀ g ∈ s.flags, g.names.hasLong l = false) :
    c.locateLong l = some id := by
  unfold locateLong
  simp only [hcompat, Bool.false_and, Bool.or_false]
  refine locate_of_wellNamed (p := (·.hasLong l)) hw hf (FlagNames.hasLong_iff.2 hl) ?_ hnear
  intro n hn
  rw [← Bool.not_eq_true, FlagNames.hasLong_iff]
  exact fun h => (FlagNames.ne_of_collision? hn).2 l h hl

theorem locateShort_of_wellNamed (hw : c.WellNamed) (hf : c.flagAt? id = some f)
    {letter : Char} (hl : f.names.short = some letter)
    (hnear : ∀ s ∈ c.sets.take id.depth, ∀ g ∈ s.flags, g.names.hasShort letter = false) :
    c.locateShort letter = some id := by
  refine locate_of_wellNamed (p := (·.hasShort letter)) hw hf (FlagNames.hasShort_iff.2 hl) ?_ hnear
  intro n hn
  rw [← Bool.not_eq_true, FlagNames.hasShort_iff]
  exact fun h => (FlagNames.ne_of_collision? hn).1 letter h hl

end Chain

end LayeredFlags
