import LayeredFlags.Arguments.Reading
import LayeredFlags.Keys.Index
import LayeredFlags.Proofs.Chain.Addressing

/-!
# Shapes of chains

The shape of a chain is what an assignment cannot change: its sets with their modes, and for each
flag the names and whether it is a switch.  Which flag a name reaches, which flags are switches
and which keys are derived depend on the shape only.
-/

namespace LayeredFlags

/-- What of a flag decides how it is addressed: its names, and whether it is a switch. -/
def Flag.shape (f : Flag) : FlagNames × Bool := (f.names, f.isBool)

/-- What of a set decides how its flags are addressed. -/
structure SetShape where
  name : String
  compat : Bool
  flags : List (FlagNames × Bool)
  deriving DecidableEq

/-- The shape of a set. -/
def FlagSet.shape (s : FlagSet) : SetShape := ⟨s.name, s.compat, s.flags.map Flag.shape⟩

/-- The shapes of the sets of a chain, nearest first. -/
def Chain.shape (c : Chain) : List SetShape := c.sets.map FlagSet.shape

/-- The shape of a set without its name, which no lookup reads. -/
def FlagSet.skeleton (s : FlagSet) : Bool × List (FlagNames × Bool) :=
  (s.compat, s.flags.map Flag.shape)

/-- The skeletons of the sets of a chain, nearest first. -/
def Chain.skeleton (c : Chain) : List (Bool × List (FlagNames × Bool)) :=
  c.sets.map FlagSet.skeleton

/-! ## Assignments keep the shape -/

theorem Flag.assign_eq_ok_iff {f g : Flag} {raw : String} {o : Origin} :
    f.assign raw o = .ok g ↔
      ∃ v, f.value.assign raw = .ok v ∧
        g = { f with value := v, isSet := true, origin := some o } := by
  unfold Flag.assign
  cases f.value.assign raw with
  | ok v => simp [eq_comm]
  | error p => simp

theorem Flag.assign_eq_error_iff {f : Flag} {raw : String} {o : Origin} {e : FlagError} :
    f.assign raw o = .error e ↔
      ∃ p, f.value.assign raw = .error p ∧ e = .valueRejected f.display raw p := by
  unfold Flag.assign
  cases f.value.assign raw with
  | ok v => simp
  | error p => simp [eq_comm]

theorem Flag.shape_of_assign {f g : Flag} {raw : String} {o : Origin} (h : f.assign raw o = .ok g) :
    g.shape = f.shape := by
  obtain ⟨v, hv, rfl⟩ := Flag.assign_eq_ok_iff.1 h
  exact congrArg (f.names, ·) (Value.isBool_of_assign hv)

theorem Flag.shape_of_reset {f g : Flag} (h : f.reset = .ok g) : g.shape = f.shape := by
  unfold Flag.reset at h
  split at h
  next v hv =>
    cases h
    refine congrArg (f.names, ·) ?_
    cases hr : f.value.restore? with
    | none =>
      rw [hr] at hv
      exact Value.isBool_of_assign hv
    | some restored =>
      rw [hr] at hv
      exact Value.isBool_of_restore? (hr.trans (congrArg some hv))
  next => cases h

theorem FlagSet.shape_reset (s : FlagSet) : s.reset.1.shape = s.shape := by
  have key (fs : List Flag) : (resetFlags fs).1.map Flag.shape = fs.map Flag.shape := by
    induction fs with
    | nil => rfl
    | cons f fs ih =>
      unfold resetFlags
      cases hf : f.reset with
      | error e => rfl
      | ok g => exact congrArg₂ List.cons (Flag.shape_of_reset hf) ih
  have hflags := key s.flags
  unfold reset
  generalize resetFlags s.flags = r at hflags ⊢
  obtain ⟨flags, _ | e⟩ := r <;> exact congrArg (SetShape.mk s.name s.compat) hflags

namespace Chain

variable {c d : Chain} {id : FlagId} {f g : Flag} {raw : String} {o : Origin}

/-- What an assignment does: it puts the new flag in its place, or nothing but fails, where there is
no flag or its value refuses the string. -/
theorem assign_cases (c : Chain) (id : FlagId) (raw : String) (o : Origin) :
    (c.flagAt? id = none ∧ c.assign id raw o = ⟨c, some (.unknownFlag id.text)⟩) ∨
      (∃ f g, c.flagAt? id = some f ∧ f.assign raw o = .ok g ∧
        c.assign id raw o = ⟨c.replace id g, none⟩) ∨
      ∃ f e, c.flagAt? id = some f ∧ f.assign raw o = .error e ∧
        c.assign id raw o = ⟨c, some e⟩ := by
  unfold assign
  cases hf : c.flagAt? id with
  | none => exact .inl ⟨rfl, rfl⟩
  | some f =>
    cases hg : f.assign raw o with
    | ok g => exact .inr (.inl ⟨f, g, rfl, hg, by simp only [hg]⟩)
    | error e => exact .inr (.inr ⟨f, e, rfl, hg, by simp only [hg]⟩)

theorem shape_replace (hf : c.flagAt? id = some f) (hg : g.shape = f.shape) :
    (c.replace id g).shape = c.shape := by
  obtain ⟨s, hs, hf⟩ := flagAt?_eq_some_iff.1 hf
  have hset : (replaceIn s id.index g).shape = s.shape := by
    unfold FlagSet.shape replaceIn
    congr 1
    rw [List.map_set, hg]
    apply List.ext_getElem?
    intro i
    rw [List.getElem?_set]
    split_ifs with hi hlt
    · rw [← hi, List.getElem?_map, hf]
      rfl
    · rw [← hi, List.getElem?_eq_none (by omega)]
    · rfl
  unfold shape
  rw [sets_replace]
  apply List.ext_getElem?
  intro i
  rw [List.getElem?_map, List.getElem?_map, List.getElem?_modify]
  split_ifs with hi
  · rw [← hi, hs]
    exact congrArg some hset
  · rw [id_map']

theorem shape_assign (c : Chain) (id : FlagId) (raw : String) (o : Origin) :
    (c.assign id raw o).state.shape = c.shape := by
  obtain ⟨-, h⟩ | ⟨f, g, hf, hg, h⟩ | ⟨f, e, -, -, h⟩ := assign_cases c id raw o <;> rw [h]
  exact shape_replace hf (Flag.shape_of_assign hg)

theorem shape_assignAll (o : Origin) (as : List Assignment) (c : Chain) :
    (assignAll o as c).state.shape = c.shape :=
  Attempt.each_preserves (P := fun d => d.shape = c.shape)
    (fun a _ d hd => (shape_assign d a.id a.raw o).trans hd) rfl

theorem shape_set (c : Chain) (name value : String) : (c.set name value).state.shape = c.shape := by
  unfold set
  cases c.locateName name with
  | none => rfl
  | some id => exact shape_assign ..

theorem shape_reset (c : Chain) : c.reset.state.shape = c.shape :=
  congrArg (· :: c.ancestors.map FlagSet.shape) (FlagSet.shape_reset c.own)

/-! ## What the shape decides -/

theorem shape_flagAt? (c : Chain) (id : FlagId) :
    (c.flagAt? id).map Flag.shape = c.shape[id.depth]?.bind fun s => s.flags[id.index]? := by
  unfold flagAt? shape
  rw [List.getElem?_map]
  cases c.sets[id.depth]? with
  | none => rfl
  | some s => exact (List.getElem?_map ..).symm

/-- A place has a flag in each of two chains of one shape, or in none. -/
theorem exists_flagAt?_of_shape (h : c.shape = d.shape) (hf : c.flagAt? id = some f) :
    ∃ g, d.flagAt? id = some g ∧ g.shape = f.shape := by
  have hd : (d.flagAt? id).map Flag.shape = some f.shape := by
    rw [shape_flagAt?, ← h, ← shape_flagAt?, hf]
    rfl
  exact Option.map_eq_some_iff.1 hd

theorem skeleton_of_shape (h : c.shape = d.shape) : c.skeleton = d.skeleton := by
  have key (c : Chain) : c.skeleton = c.shape.map fun s => (s.compat, s.flags) := by
    unfold skeleton shape
    rw [List.map_map]
    rfl
  rw [key, key, h]

theorem compat_of_skeleton (h : c.skeleton = d.skeleton) : c.own.compat = d.own.compat :=
  congrArg Prod.fst (List.cons.inj h).1

theorem isBoolAt_of_skeleton (h : c.skeleton = d.skeleton) (id : FlagId) :
    c.isBoolAt id = d.isBoolAt id := by
  have key (c : Chain) : c.isBoolAt id =
      (c.skeleton[id.depth]?.bind fun s => s.2[id.index]?).any Prod.snd := by
    unfold isBoolAt flagAt? skeleton
    rw [List.getElem?_map]
    cases c.sets[id.depth]? with
    | none => rfl
    | some s =>
      show (s.flags[id.index]?).any Flag.isBool = ((s.flags.map Flag.shape)[id.index]?).any Prod.snd
      rw [List.getElem?_map, Option.any_map]
      rfl
  rw [key, key, h]

theorem locateFrom_of_skeleton (q : FlagNames → Bool) {ss ts : List FlagSet}
    (h : ss.map FlagSet.skeleton = ts.map FlagSet.skeleton) (depth : Nat) :
    locateFrom (q ·.names) depth ss = locateFrom (q ·.names) depth ts := by
  induction ss generalizing ts depth with
  | nil =>
    rw [List.map_nil, eq_comm, List.map_eq_nil_iff] at h
    rw [h]
  | cons s ss ih =>
    cases ts with
    | nil => cases h
    | cons t ts =>
      obtain ⟨hs, hrest⟩ := List.cons.inj h
      have find (s : FlagSet) : s.flags.findIdx? (q ·.names) = s.skeleton.2.findIdx? (q ·.1) := by
        rw [FlagSet.skeleton, List.findIdx?_map]
        rfl
      unfold locateFrom
      rw [find, find, hs, ih hrest]

theorem locate_of_skeleton (q : FlagNames → Bool) (h : c.skeleton = d.skeleton) :
    c.locate (q ·.names) = d.locate (q ·.names) :=
  locateFrom_of_skeleton q h 0

theorem locateName_of_shape (h : c.shape = d.shape) (name : String) :
    c.locateName name = d.locateName name :=
  locate_of_skeleton (·.answersTo (bareName name)) (skeleton_of_shape h)

theorem locateLong_of_skeleton (h : c.skeleton = d.skeleton) (name : String) :
    c.locateLong name = d.locateLong name := by
  unfold locateLong
  rw [compat_of_skeleton h]
  exact locate_of_skeleton (fun n => n.hasLong name || (d.own.compat && n.answersTo name)) h

theorem locateShort_of_skeleton (h : c.skeleton = d.skeleton) (letter : Char) :
    c.locateShort letter = d.locateShort letter :=
  locate_of_skeleton (·.hasShort letter) h

theorem unclaimedLong_of_skeleton (h : c.skeleton = d.skeleton) (dashes name : String) :
    c.unclaimedLong dashes name = d.unclaimedLong dashes name := by
  unfold unclaimedLong
  rw [compat_of_skeleton h]

theorem located_of_shape (h : c.shape = d.shape) :
    c.located.map (fun p => (p.1, p.2.shape)) = d.located.map fun p => (p.1, p.2.shape) := by
  have key (c : Chain) : c.located.map (fun p => (p.1, p.2.shape)) =
      c.shape.zipIdx.flatMap fun (s, depth) =>
        s.flags.zipIdx.map fun (x, index) => (⟨depth, index⟩, x) := by
    unfold located shape FlagSet.shape
    simp only [List.zipIdx_map, List.map_flatMap, List.flatMap_map, List.map_map, Prod.map_fst,
      Prod.map_snd, id_eq]
    rfl
  rw [key, key, h]

/-- A function of places and names has the same values on chains of one shape. -/
theorem map_located_of_shape {α : Type} (h : c.shape = d.shape) {t : FlagId × Flag → α}
    (ht : ∀ id f g, f.names = g.names → t (id, f) = t (id, g)) :
    c.located.map t = d.located.map t := by
  have hl := located_of_shape h
  generalize c.located = xs at hl ⊢
  generalize d.located = ys at hl ⊢
  induction xs generalizing ys with
  | nil =>
    rw [List.map_nil, eq_comm, List.map_eq_nil_iff] at hl
    rw [hl]
  | cons x xs ih =>
    cases ys with
    | nil => cases hl
    | cons y ys =>
      obtain ⟨hx, hxs⟩ := List.cons.inj hl
      obtain ⟨i, f⟩ := x
      obtain ⟨j, g⟩ := y
      simp only [Prod.mk.injEq] at hx
      obtain ⟨rfl, hfg⟩ := hx
      rw [List.map_cons, List.map_cons, ih ys hxs, ht i f g (congrArg Prod.fst hfg)]

theorem keyIndex_of_shape (h : c.shape = d.shape) (r : KeyRules) :
    KeyIndex.ofChain r c = KeyIndex.ofChain r d := by
  unfold KeyIndex.ofChain
  congr 1
  refine map_located_of_shape h fun id f g e => ?_
  simp only [Flag.display, KeyRules.keys, e]

end Chain

end LayeredFlags
