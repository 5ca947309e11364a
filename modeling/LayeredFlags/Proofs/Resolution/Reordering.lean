import LayeredFlags.Proofs.Forest.History
import LayeredFlags.Proofs.Resolution.Configuration

/-!
# The order of configuration entries

Entries of a configuration for different flags may change places: the tier succeeds in either order
or in neither, and leaves the same chain.  What the entries for one flag do to it depends on their
order, so that order is kept.
-/

namespace LayeredFlags

/-! ## Rearranged lists -/

section

variable {α κ : Type} {key : α → Option κ} {x y : α} {xs ys : List α}

/-- Two elements have no key in common. -/
def Apart (key : α → Option κ) (x y : α) : Prop :=
  ∀ k, key x = some k → key y ≠ some k

theorem Apart.symm (h : Apart key x y) : Apart key y x :=
  fun k hy hx => h k hx hy

variable [DecidableEq κ]

/-- Two lists have the same elements, and those with one key come in the same order. -/
structure Rearranged (key : α → Option κ) (xs ys : List α) : Prop where
  perm : xs.Perm ys
  kept : ∀ k, xs.filter (key · = some k) = ys.filter (key · = some k)

/-- The first element stands in the other list behind elements that are apart from it. -/
theorem Rearranged.exists_split (h : Rearranged key (x :: xs) ys) :
    ∃ u v, ys = u ++ x :: v ∧ (∀ y ∈ u, Apart key y x) ∧ Rearranged key xs (u ++ v) := by
  obtain ⟨u, v, rfl, hfree⟩ : ∃ u v, ys = u ++ x :: v ∧ ∀ y ∈ u, Apart key y x := by
    cases hx : key x with
    | none =>
      obtain ⟨u, v, rfl⟩ := List.append_of_mem (h.perm.mem_iff.1 List.mem_cons_self)
      exact ⟨u, v, rfl, fun y _ k _ hk => Option.some_ne_none k (hk.symm.trans hx)⟩
    | some k =>
      have hk := h.kept k
      rw [List.filter_cons_of_pos (by simpa using hx), eq_comm, List.filter_eq_cons_iff] at hk
      obtain ⟨u, v, rfl, hu, -, -⟩ := hk
      refine ⟨u, v, rfl, fun y hy k' hy' hx' => hu y hy ?_⟩
      rw [decide_eq_true_eq, hy', ← hx', hx]
  refine ⟨u, v, rfl, hfree, (h.perm.trans List.perm_middle).cons_inv, fun k => ?_⟩
  have hk := h.kept k
  rw [List.filter_append] at hk ⊢
  by_cases hx : key x = some k
  · have hu : u.filter (key · = some k) = [] := by
      refine List.filter_eq_nil_iff.2 fun y hy hyk => ?_
      rw [decide_eq_true_eq] at hyk
      exact hfree y hy k hyk hx
    rw [hu, List.filter_cons_of_pos (by simpa using hx),
      List.filter_cons_of_pos (by simpa using hx)] at hk
    rw [hu]
    exact (List.cons.inj hk).2
  · rwa [List.filter_cons_of_neg (by simpa using hx),
      List.filter_cons_of_neg (by simpa using hx)] at hk

end

/-! ## Rearranged steps -/

namespace Attempt

variable {σ α κ : Type} {step : α → σ → Attempt σ} {P : σ → Prop} {x : α} {xs ys u v : List α}
  {s t : σ}

/-- Two steps may change places: they succeed in either order or in neither, and lead to the same
state. -/
def Swaps (P : σ → Prop) (step : α → σ → Attempt σ) (x y : α) : Prop :=
  ∀ s t, P s →
    ((step x s).andThen (step y) = ⟨t, none⟩ ↔ (step y s).andThen (step x) = ⟨t, none⟩)

/-- A step that may change places with all steps before it may be taken first. -/
theorem each_middle (hstep : ∀ y s, P s → P (step y s).state)
    (hswaps : ∀ y ∈ u, Swaps P step y x) (hs : P s) :
    each step (u ++ x :: v) s = ⟨t, none⟩ ↔ each step (x :: (u ++ v)) s = ⟨t, none⟩ := by
  induction u generalizing s with
  | nil => rfl
  | cons y u ih =>
    rw [List.forall_mem_cons] at hswaps
    have hfirst : (step y s).andThen (each step (u ++ x :: v)) = ⟨t, none⟩ ↔
        (step y s).andThen (each step (x :: (u ++ v))) = ⟨t, none⟩ := by
      rw [andThen_eq_mk_none_iff, andThen_eq_mk_none_iff]
      refine exists_congr fun r => and_congr_right fun hr => ih hswaps.2 ?_
      have hr' := hstep y s hs
      rwa [hr] at hr'
    have hswap : ((step y s).andThen (step x)).andThen (each step (u ++ v)) = ⟨t, none⟩ ↔
        ((step x s).andThen (step y)).andThen (each step (u ++ v)) = ⟨t, none⟩ := by
      rw [andThen_eq_mk_none_iff, andThen_eq_mk_none_iff]
      exact exists_congr fun r => and_congr_left fun _ => hswaps.1 s r hs
    rw [andThen_assoc, andThen_assoc] at hswap
    exact hfirst.trans hswap

/-- Steps for different keys, and steps without one, may be rearranged. -/
theorem each_rearranged [DecidableEq κ] {key : α → Option κ}
    (hstep : ∀ y s, P s → P (step y s).state)
    (hswaps : ∀ y z, Apart key y z → Swaps P step y z) (h : Rearranged key xs ys) (hs : P s) :
    each step xs s = ⟨t, none⟩ ↔ each step ys s = ⟨t, none⟩ := by
  induction xs generalizing ys s with
  | nil => rw [h.perm.nil_eq]
  | cons x xs ih =>
    obtain ⟨u, v, rfl, hfree, hrest⟩ := h.exists_split
    rw [each_middle hstep (fun y hy => hswaps y x (hfree y hy)) hs, each_cons, each_cons,
      andThen_eq_mk_none_iff, andThen_eq_mk_none_iff]
    refine exists_congr fun r => and_congr_right fun hr => ih hrest ?_
    have hr' := hstep x s hs
    rwa [hr] at hr'

end Attempt

namespace Chain

variable {c d : Chain} {o : ParseOptions} {x : KeyIndex} {path : String} {provided : List FlagId}
  {i j : FlagId} {f g : Flag}

/-! ## Assignments to two places -/

theorem eq_of_sets (h : c.sets = d.sets) : c = d := by
  obtain ⟨own, ancestors⟩ := c
  obtain ⟨rfl, rfl⟩ := List.cons.inj h
  rfl

theorem replace_comm (h : i ≠ j) :
    (c.replace i f).replace j g = (c.replace j g).replace i f := by
  apply eq_of_sets
  rw [sets_replace, sets_replace, sets_replace, sets_replace]
  by_cases hd : i.depth = j.depth
  · have hi : i.index ≠ j.index := FlagId.index_ne h hd
    rw [hd, List.modify_modify_eq, List.modify_modify_eq]
    congr 1
    funext s
    exact congrArg (fun flags => { s with flags }) (List.set_comm f g hi)
  · exact List.modify_modify_ne _ _ _ hd

theorem assign_eq_mk_none_iff {raw : String} {origin : Origin} :
    c.assign i raw origin = ⟨d, none⟩ ↔
      ∃ f g, c.flagAt? i = some f ∧ f.assign raw origin = .ok g ∧ d = c.replace i g := by
  obtain ⟨hf, e⟩ | ⟨f, g, hf, hg, e⟩ | ⟨f, p, hf, hg, e⟩ := assign_cases c i raw origin <;>
    rw [e]
  · simp [hf]
  · simp [hf, hg, eq_comm]
  · simp [hf, hg]

/-- Assignments to two places that succeed one after the other do so in the other order too. -/
theorem assign_swap (h : i ≠ j) {a b : String} {origin : Origin} {r : Chain}
    (hi : c.assign i a origin = ⟨r, none⟩) (hj : r.assign j b origin = ⟨d, none⟩) :
    ∃ r', c.assign j b origin = ⟨r', none⟩ ∧ r'.assign i a origin = ⟨d, none⟩ := by
  obtain ⟨f, f', hf, hf', rfl⟩ := assign_eq_mk_none_iff.1 hi
  obtain ⟨g, g', hg, hg', rfl⟩ := assign_eq_mk_none_iff.1 hj
  rw [flagAt?_replace_of_ne h.symm] at hg
  have hf'' : (c.replace j g').flagAt? i = some f := by rw [flagAt?_replace_of_ne h, hf]
  refine ⟨c.replace j g', assign_eq_mk_none_iff.2 ⟨g, g', hg, hg', rfl⟩, ?_⟩
  exact assign_eq_mk_none_iff.2 ⟨f, f', hf'', hf', replace_comm h⟩

/-! ## Pairs -/

/-- The flag that a name in the configuration means, if it means one. -/
def meant? (c : Chain) (x : KeyIndex) (name : String) : Option FlagId :=
  match c.resolveName x name with
  | .ok found => found
  | .error _ => none

theorem means_eq (id : FlagId) (name : String) :
    c.means x id name = decide (c.meant? x name = some id) := by
  unfold means meant?
  cases c.resolveName x name with
  | error e => rfl
  | ok found =>
    cases found with
    | none => rfl
    | some id' => simp

/-- What a pair does, whatever has been assigned: it leaves the chain alone, perhaps with a failure,
or it is assigned to the flag that its name means. -/
theorem receive_eq (c : Chain) (o : ParseOptions) (x : KeyIndex) (path : String)
    (provided : List FlagId) (pair : String × String) :
    (∃ failure, ∀ d : Chain, d.shape = c.shape →
        receive o x path provided pair d = ⟨d, failure⟩) ∨
      ∃ id, c.meant? x pair.1 = some id ∧ ∀ d : Chain, d.shape = c.shape →
        receive o x path provided pair d = d.assign id pair.2 (.config path) := by
  unfold meant?
  cases hname : c.resolveName x pair.1 with
  | error e =>
    refine .inl ⟨some e, fun d hd => ?_⟩
    simp only [receive, resolveName_of_shape hd, hname]
  | ok found =>
    cases found with
    | none =>
      refine .inl ⟨if o.ignoreUndefined then none else some (.unknownFlag pair.1), fun d hd => ?_⟩
      simp only [receive, resolveName_of_shape hd, hname]
    | some id =>
      by_cases hp : provided.contains id = true
      · refine .inl ⟨none, fun d hd => ?_⟩
        simp only [receive, resolveName_of_shape hd, hname, if_pos hp]
      · refine .inr ⟨id, rfl, fun d hd => ?_⟩
        simp only [receive, resolveName_of_shape hd, hname, if_neg hp]

/-- Pairs that mean no flag in common and are received one after the other can be received in the
other order too. -/
theorem receive_swap {y z : String × String}
    (h : Apart (fun pair => c.meant? x pair.1) y z) {s t : Chain} (hs : s.shape = c.shape)
    (hyz : (receive o x path provided y s).andThen (receive o x path provided z) = ⟨t, none⟩) :
    (receive o x path provided z s).andThen (receive o x path provided y) = ⟨t, none⟩ := by
  have hshape {pair : String × String} {q r : Chain} (hq : q.shape = c.shape)
      (hr : receive o x path provided pair q = ⟨r, none⟩) : r.shape = c.shape := by
    have hr' := shape_receive hq o x path provided pair
    rwa [hr] at hr'
  rw [Attempt.andThen_eq_mk_none_iff] at hyz ⊢
  obtain ⟨r, hr, ht⟩ := hyz
  have hrc : r.shape = c.shape := hshape hs hr
  rcases receive_eq c o x path provided y with ⟨fy, hy⟩ | ⟨i, hi, hy⟩
  · -- the first pair leaves the chain alone, before the second and behind it
    rw [hy s hs] at hr
    cases hr
    exact ⟨t, ht, hy t (hshape hs ht)⟩
  · rcases receive_eq c o x path provided z with ⟨fz, hz⟩ | ⟨j, hj, hz⟩
    · rw [hz r hrc] at ht
      cases ht
      exact ⟨s, hz s hs, hr⟩
    · have hne : i ≠ j := by
        rintro rfl
        exact h i hi hj
      rw [hy s hs] at hr
      rw [hz r hrc] at ht
      obtain ⟨r', hr', ht'⟩ := assign_swap hne hr ht
      rw [← hz s hs] at hr'
      exact ⟨r', hr', (hy r' (hshape hs hr')).trans ht'⟩

/-! ## Streams -/

/-- Two streams hold the same pairs, those that mean one flag in the same order, and both come to
their end or neither does. -/
structure Reorders (c : Chain) (x : KeyIndex) (p q : Decoded) : Prop where
  perm : p.pairs.Perm q.pairs
  kept : ∀ id, p.pairs.filter (fun pair => c.means x id pair.1) =
    q.pairs.filter fun pair => c.means x id pair.1
  ended : p.failure.isNone = q.failure.isNone

/-- Only the flags that the pairs mean need to be looked at. -/
theorem reorders_iff {p q : Decoded} : c.Reorders x p q ↔
    p.pairs.Perm q.pairs ∧ p.failure.isNone = q.failure.isNone ∧
      ∀ id ∈ p.pairs.filterMap fun pair => c.meant? x pair.1,
        p.pairs.filter (fun pair => c.means x id pair.1) =
          q.pairs.filter fun pair => c.means x id pair.1 := by
  constructor
  · exact fun h => ⟨h.perm, h.ended, fun id _ => h.kept id⟩
  · rintro ⟨hperm, hended, hkept⟩
    refine ⟨hperm, fun id => ?_, hended⟩
    by_cases hid : id ∈ p.pairs.filterMap fun pair => c.meant? x pair.1
    · exact hkept id hid
    · have hp : p.pairs.filter (fun pair => c.means x id pair.1) = [] := by
        refine List.filter_eq_nil_iff.2 fun pair hpair hmeans => hid ?_
        rw [means_eq, decide_eq_true_eq] at hmeans
        exact List.mem_filterMap.2 ⟨pair, hpair, hmeans⟩
      rw [hp, eq_comm, ← List.perm_nil, ← hp]
      exact (hperm.filter _).symm

instance {p q : Decoded} : Decidable (c.Reorders x p q) :=
  decidable_of_iff' _ reorders_iff

theorem feed_reordered {p q : Decoded} (h : c.Reorders x p q) (o : ParseOptions) (path : String)
    (provided : List FlagId) :
    p.feed (receive o x path provided) c = ⟨d, none⟩ ↔
      q.feed (receive o x path provided) c = ⟨d, none⟩ := by
  have hrearranged : Rearranged (fun pair => c.meant? x pair.1) p.pairs q.pairs :=
    ⟨h.perm, fun id => by simpa only [means_eq] using h.kept id⟩
  have hpairs (r : Chain) : Attempt.each (receive o x path provided) p.pairs c = ⟨r, none⟩ ↔
      Attempt.each (receive o x path provided) q.pairs c = ⟨r, none⟩ := by
    refine Attempt.each_rearranged (P := fun r : Chain => r.shape = c.shape)
      (fun pair r hr => shape_receive hr o x path provided pair) (fun y z hyz s t hs => ?_)
      hrearranged rfl
    exact ⟨receive_swap hyz hs, receive_swap hyz.symm hs⟩
  have hended (r : Chain) : (⟨r, p.failure⟩ : Attempt Chain) = ⟨d, none⟩ ↔
      (⟨r, q.failure⟩ : Attempt Chain) = ⟨d, none⟩ := by
    have hnone : p.failure = none ↔ q.failure = none := by
      rw [← Option.isNone_iff_eq_none, h.ended, Option.isNone_iff_eq_none]
    rw [Attempt.mk.injEq, Attempt.mk.injEq, hnone]
  unfold Decoded.feed
  rw [Attempt.andThen_eq_mk_none_iff, Attempt.andThen_eq_mk_none_iff]
  exact exists_congr fun r => and_congr (hpairs r) (hended r)

/-- The configuration tier succeeds on both of two streams or on neither, and leaves the same
chain. -/
theorem fillFromFile_reordered {decoder : ConfigDecoder}
    (h : ∀ source, o.openFile path = .opened source →
      c.Reorders x (o.decoder source) (decoder source)) (d : Chain) :
    c.fillFromFile o x path = ⟨d, none⟩ ↔
      c.fillFromFile { o with decoder } x path = ⟨d, none⟩ := by
  unfold fillFromFile
  cases hopen : o.openFile path with
  | missing => rfl
  | refused reason => rfl
  | opened source => exact feed_reordered (h source hopen) o path c.provided

/-- A list keeps the order of its elements, while the pairs around them move. -/
theorem fillFromFile_reordered_sample :
    let c := grownChain
    let x := KeyIndex.ofChain {} c
    let p : Decoded :=
      ⟨[("tag", "a"), ("other", "?"), ("n", "7"), ("verbose", "true"), ("TAG", "b")], none⟩
    let q : Decoded :=
      ⟨[("n", "7"), ("tag", "a"), ("verbose", "true"), ("TAG", "b"), ("other", "?")], none⟩
    let o : ParseOptions :=
      { ignoreUndefined := true
        openFile := fun _ => .opened (.ofString "")
        decoder := fun _ => p }
    let a := c.fillFromFile o x "app.conf"
    (∀ source, o.openFile "app.conf" = .opened source → c.Reorders x (o.decoder source) q) ∧
      a.failure.isNone ∧
      a.state.sets.map (fun s => s.flags.map Flag.text) =
        [["[a, b]", "7"], ["true", "false"]] ∧
      ∀ d, a = ⟨d, none⟩ ↔
        c.fillFromFile { o with decoder := fun _ => q } x "app.conf" = ⟨d, none⟩ := by
  intro c x p q o a
  have hreorders : c.Reorders x p q := by decide +kernel
  refine ⟨fun _ _ => hreorders, by decide +kernel, by decide +kernel, ?_⟩
  exact fillFromFile_reordered fun _ _ => hreorders

end Chain

end LayeredFlags
