import LayeredFlags.FlagSet.Chain
import Mathlib.Data.List.Nodup

/-!
# Places of flags

A place belongs to at most one flag of a chain.  Replacing the flag at a place leaves every other
flag alone; all flags are listed in the order of their places, nearest set first; and a search
gives the place of the first flag of its kind in that list.
-/

namespace LayeredFlags

theorem FlagId.index_ne {i j : FlagId} (h : i ≠ j) (hd : i.depth = j.depth) :
    i.index ≠ j.index := by
  intro hi
  obtain ⟨d, k⟩ := i
  obtain ⟨d', k'⟩ := j
  obtain rfl : d = d' := hd
  obtain rfl : k = k' := hi
  exact h rfl

/-- One place comes before another: in a nearer set, or earlier in the same set. -/
def FlagId.Before (i j : FlagId) : Prop :=
  i.depth < j.depth ∨ i.depth = j.depth ∧ i.index < j.index

theorem FlagId.Before.ne {i j : FlagId} (h : i.Before j) : i ≠ j := by
  rintro rfl
  obtain h | ⟨-, h⟩ := h <;> exact Nat.lt_irrefl _ h

/-- The flags of a set with their places at a depth. -/
def FlagSet.locatedAt (s : FlagSet) (depth : Nat) : List (FlagId × Flag) :=
  s.flags.zipIdx.map fun v => (⟨depth, v.2⟩, v.1)

namespace Chain

variable {c : Chain} {id : FlagId} {f g : Flag}

theorem flagAt?_eq_some_iff :
    c.flagAt? id = some f ↔ ∃ s, c.sets[id.depth]? = some s ∧ s.flags[id.index]? = some f :=
  Option.bind_eq_some_iff

/-! ## Replacing -/

theorem sets_replace (c : Chain) (id : FlagId) (f : Flag) :
    (c.replace id f).sets = c.sets.modify id.depth (replaceIn · id.index f) := by
  obtain ⟨depth, index⟩ := id
  cases depth with
  | zero => rfl
  | succ depth => rfl

theorem flagAt?_replace_self (h : c.flagAt? id = some f) :
    (c.replace id g).flagAt? id = some g := by
  obtain ⟨s, hs, hf⟩ := flagAt?_eq_some_iff.1 h
  refine flagAt?_eq_some_iff.2 ⟨replaceIn s id.index g, ?_, ?_⟩
  · rw [sets_replace, List.getElem?_modify_eq, hs]
    rfl
  · exact List.getElem?_set_self (List.getElem?_eq_some_iff.1 hf).1

theorem flagAt?_replace_of_ne {id' : FlagId} (h : id' ≠ id) :
    (c.replace id g).flagAt? id' = c.flagAt? id' := by
  unfold flagAt?
  rw [sets_replace, List.getElem?_modify]
  split_ifs with hd
  · -- the place lies in the set that is changed, at another index
    have hi : id.index ≠ id'.index := FlagId.index_ne h.symm hd
    cases c.sets[id'.depth]? with
    | none => rfl
    | some s => exact List.getElem?_set_ne hi
  · rw [id_map']

/-! ## Listing -/

theorem mem_located_iff : (id, f) ∈ c.located ↔ c.flagAt? id = some f := by
  simp only [located, List.mem_flatMap, List.mem_map, Prod.mk.injEq, Prod.exists,
    List.mk_mem_zipIdx_iff_getElem?, flagAt?_eq_some_iff]
  constructor
  · rintro ⟨s, d, hs, g, i, hg, rfl, rfl⟩
    exact ⟨s, hs, hg⟩
  · rintro ⟨s, hs, hf⟩
    exact ⟨s, id.depth, hs, f, id.index, hf, rfl, rfl⟩

theorem located_eq_filterMap (c : Chain) :
    c.located = (c.located.map Prod.fst).filterMap fun i => (c.flagAt? i).map (i, ·) := by
  rw [List.filterMap_map]
  have hself : c.located.filterMap some = c.located := List.filterMap_some
  refine hself.symm.trans (List.filterMap_congr fun p hp => ?_)
  have hp : c.flagAt? p.1 = some p.2 := mem_located_iff.1 hp
  simp only [Function.comp_apply, hp, Option.map_some]

theorem located_eq_flatMap (c : Chain) :
    c.located = c.sets.zipIdx.flatMap fun v => v.1.locatedAt v.2 :=
  rfl

theorem pairwise_zipIdx {α : Type} (xs : List α) : xs.zipIdx.Pairwise fun v w => v.2 < w.2 := by
  rw [← List.pairwise_map, List.zipIdx_map_snd]
  exact List.pairwise_lt_range' ..

/-- The flags are listed in the order of their places. -/
theorem pairwise_located (c : Chain) : (c.located.map Prod.fst).Pairwise FlagId.Before := by
  rw [List.pairwise_map, located_eq_flatMap, List.pairwise_flatMap]
  constructor
  · rintro ⟨s, depth⟩ -
    rw [FlagSet.locatedAt, List.pairwise_map]
    exact (pairwise_zipIdx s.flags).imp fun h => .inr ⟨rfl, h⟩
  · refine (pairwise_zipIdx c.sets).imp fun {v w} h => ?_
    simp only [FlagSet.locatedAt, List.mem_map]
    rintro _ ⟨_, -, rfl⟩ _ ⟨_, -, rfl⟩
    exact .inl h

theorem nodup_located (c : Chain) : (c.located.map Prod.fst).Nodup :=
  (pairwise_located c).imp FlagId.Before.ne

/-- All flags are listed, nearest set first and those of a set in the order of registration. -/
theorem map_snd_located (c : Chain) : c.located.map Prod.snd = c.sets.flatMap FlagSet.flags := by
  have hset (v : FlagSet × Nat) : (v.1.locatedAt v.2).map Prod.snd = v.1.flags := by
    rw [FlagSet.locatedAt, List.map_map]
    exact List.zipIdx_map_fst ..
  calc c.located.map Prod.snd
      = c.sets.zipIdx.flatMap fun v => v.1.flags := by
        rw [located_eq_flatMap, List.map_flatMap, funext hset]
    _ = (c.sets.zipIdx.map Prod.fst).flatMap FlagSet.flags := (List.flatMap_map ..).symm
    _ = c.sets.flatMap FlagSet.flags := by rw [List.zipIdx_map_fst]

theorem mem_provided_iff : id ∈ c.provided ↔ ∃ f, c.flagAt? id = some f ∧ f.isSet = true := by
  simp only [provided, List.mem_filterMap, Prod.exists, mem_located_iff]
  constructor
  · rintro ⟨id', f, hf, h⟩
    split_ifs at h with hs
    obtain rfl := Option.some.inj h
    exact ⟨f, hf, hs⟩
  · rintro ⟨f, hf, hs⟩
    exact ⟨id, f, hf, if_pos hs⟩

theorem not_mem_provided (hf : c.flagAt? id = some f) (hunset : f.isSet = false) :
    id ∉ c.provided := by
  intro hid
  obtain ⟨g, hg, hset⟩ := mem_provided_iff.1 hid
  rw [hf] at hg
  rw [← Option.some.inj hg, hunset] at hset
  cases hset

/-! ## Searching -/

theorem find?_locatedAt (p : Flag → Bool) (s : FlagSet) (depth : Nat) :
    ((s.locatedAt depth).find? fun v => p v.2).map Prod.fst =
      (s.flags.findIdx? p).map (⟨depth, ·⟩) := by
  rw [FlagSet.locatedAt, List.find?_map, List.findIdx?_eq_fst_find?_zipIdx, Option.map_map,
    Option.map_map]
  rfl

theorem locateFrom_eq_find? (p : Flag → Bool) (depth : Nat) (sets : List FlagSet) :
    locateFrom p depth sets =
      (((sets.zipIdx depth).flatMap fun v => v.1.locatedAt v.2).find? fun v => p v.2).map
        Prod.fst := by
  induction sets generalizing depth with
  | nil => rfl
  | cons s rest ih =>
    rw [locateFrom, List.zipIdx_cons, List.flatMap_cons, List.find?_append, Option.map_or,
      find?_locatedAt, ih]
    cases s.flags.findIdx? p <;> rfl

/-- A search gives the place of the first flag of the kind in the list of all flags. -/
theorem locate_eq_find? (c : Chain) (p : Flag → Bool) :
    c.locate p = (c.located.find? fun v => p v.2).map Prod.fst :=
  locateFrom_eq_find? p 0 c.sets

theorem flagAt?_of_locate {p : Flag → Bool} (h : c.locate p = some id) :
    ∃ f, c.flagAt? id = some f ∧ p f = true := by
  rw [locate_eq_find?] at h
  obtain ⟨v, hfind, rfl⟩ := Option.map_eq_some_iff.1 h
  have hp : p v.2 = true := List.find?_some (p := fun v : FlagId × Flag => p v.2) hfind
  exact ⟨v.2, mem_located_iff.1 (List.mem_of_find?_eq_some hfind), hp⟩

/-- A search finds nothing when the chain has no flag of the kind. -/
theorem locate_eq_none_iff {p : Flag → Bool} :
    c.locate p = none ↔ ∀ id f, c.flagAt? id = some f → p f = false := by
  simp only [locate_eq_find?, Option.map_eq_none_iff, List.find?_eq_none, Prod.forall,
    mem_located_iff, Bool.not_eq_true]

theorem locateFrom_eq_some_iff {p : Flag → Bool} {depth : Nat} {sets : List FlagSet} :
    locateFrom p depth sets = some id ↔
      ∃ k s, id.depth = depth + k ∧ sets[k]? = some s ∧ s.flags.findIdx? p = some id.index ∧
        ∀ t ∈ sets.take k, ∀ g ∈ t.flags, p g = false := by
  induction sets generalizing depth with
  | nil => simp [locateFrom]
  | cons s rest ih =>
    unfold locateFrom
    cases hs : s.flags.findIdx? p with
    | some index =>
      have hp : ∃ g ∈ s.flags, p g = true := by
        rw [List.findIdx?_eq_some_iff_getElem] at hs
        obtain ⟨hi, hp, -⟩ := hs
        exact ⟨_, List.getElem_mem hi, hp⟩
      constructor
      · rintro ⟨⟩
        exact ⟨0, s, rfl, rfl, hs, by simp⟩
      · rintro ⟨k, t, hd, ht, hi, hnear⟩
        cases k with
        | zero =>
          obtain rfl := Option.some.inj ht
          rw [hs] at hi
          obtain ⟨d, i⟩ := id
          simp only [Nat.add_zero] at hd hi
          rw [hd, Option.some.inj hi]
        | succ k =>
          obtain ⟨g, hg, hpg⟩ := hp
          rw [hnear s (by simp) g hg] at hpg
          cases hpg
    | none =>
      rw [List.findIdx?_eq_none_iff] at hs
      refine ih.trans ⟨?_, ?_⟩
      · rintro ⟨k, t, hd, ht, hi, hnear⟩
        refine ⟨k + 1, t, by omega, ht, hi, ?_⟩
        intro u hu g hg
        rcases List.mem_cons.1 hu with rfl | hu
        · exact hs g hg
        · exact hnear u hu g hg
      · rintro ⟨k, t, hd, ht, hi, hnear⟩
        cases k with
        | zero =>
          obtain rfl := Option.some.inj ht
          rw [List.findIdx?_eq_none_iff.2 hs] at hi
          cases hi
        | succ k =>
          exact ⟨k, t, by omega, ht, hi, fun u hu => hnear u (List.mem_cons_of_mem _ hu)⟩

/-- A search finds a place when its set has the first flag of the kind there and no nearer set has
such a flag. -/
theorem locate_eq_some_iff {p : Flag → Bool} :
    c.locate p = some id ↔
      ∃ s, c.sets[id.depth]? = some s ∧ s.flags.findIdx? p = some id.index ∧
        ∀ t ∈ c.sets.take id.depth, ∀ g ∈ t.flags, p g = false := by
  unfold locate
  rw [locateFrom_eq_some_iff]
  constructor
  · rintro ⟨k, s, hd, hs, hi, hnear⟩
    obtain rfl : k = id.depth := by omega
    exact ⟨s, hs, hi, hnear⟩
  · rintro ⟨s, hs, hi, hnear⟩
    exact ⟨id.depth, s, by omega, hs, hi, hnear⟩

end Chain

end LayeredFlags
