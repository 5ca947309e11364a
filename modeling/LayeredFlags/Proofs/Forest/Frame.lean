import LayeredFlags.Proofs.Forest.Step

/-!
# The frame of a call

A call on a set reaches the set and its ancestors, and nothing else.  Of an ancestor it changes the
values of flags at most, with their marks and origins, and even that only if it assigns; the flags
of the set itself stay the same ones unless one is registered.
-/

namespace LayeredFlags

/-- The call is one on the flags of the set with a number. -/
def Call.WorksOn (id : Nat) : Call → Prop
  | .add i _ => i = id
  | .set i _ _ => i = id
  | .parse i _ _ => i = id
  | .reset i => i = id
  | _ => False

/-- The call assigns flags, if it does anything. -/
def Call.Assigns : Call → Prop
  | .set _ _ _ => True
  | .parse _ _ _ => True
  | _ => False

/-- The call registers a flag. -/
def Call.Registers : Call → Prop
  | .add _ _ => True
  | _ => False

/-- Nothing of a flag changes but its value, its mark and its origin, and it stays a switch or
stays none. -/
structure Flag.Refilled (f g : Flag) : Prop where
  rest : g = { f with value := g.value, isSet := g.isSet, origin := g.origin }
  isBool : g.isBool = f.isBool

/-- Nothing of a set changes but what its flags hold. -/
structure FlagSet.Refilled (s t : FlagSet) : Prop where
  flags : List.Forall₂ Flag.Refilled s.flags t.flags
  rest : t = { s with flags := t.flags }

/-! ## Flags -/

theorem Flag.Refilled.refl (f : Flag) : f.Refilled f :=
  ⟨rfl, rfl⟩

theorem Flag.Refilled.trans {f g h : Flag} (hfg : f.Refilled g) (hgh : g.Refilled h) :
    f.Refilled h := by
  refine ⟨?_, hgh.isBool.trans hfg.isBool⟩
  rw [hgh.rest, hfg.rest]

theorem Flag.refilled_of_assign {f g : Flag} {raw : String} {o : Origin}
    (h : f.assign raw o = .ok g) : f.Refilled g := by
  have hshape := Flag.shape_of_assign h
  obtain ⟨v, -, rfl⟩ := Flag.assign_eq_ok_iff.1 h
  exact ⟨rfl, congrArg Prod.snd hshape⟩

theorem Flag.Evolves.refilled {f g : Flag} (h : f.Evolves g) : f.Refilled g := by
  induction h with
  | refl => exact .refl f
  | tail _ hstep ih =>
    obtain ⟨raw, o, ha⟩ := hstep
    exact ih.trans (Flag.refilled_of_assign ha)

theorem Flag.refilled_of_reset {f g : Flag} (h : f.reset = .ok g) : f.Refilled g := by
  have hshape := Flag.shape_of_reset h
  refine ⟨?_, congrArg Prod.snd hshape⟩
  unfold Flag.reset at h
  split at h
  · cases h
    rfl
  · cases h

/-! ## Sets -/

theorem FlagSet.Evolves.refilled {s t : FlagSet} (h : s.Evolves t) : s.Refilled t :=
  ⟨h.flags.imp fun _ _ => Flag.Evolves.refilled, h.rest⟩

theorem FlagSet.refilled_resetFlags (fs : List Flag) :
    List.Forall₂ Flag.Refilled fs (resetFlags fs).1 := by
  induction fs with
  | nil => exact .nil
  | cons f fs ih =>
    unfold resetFlags
    cases hf : f.reset with
    | error e => exact List.forall₂_same.2 fun g _ => .refl g
    | ok g => exact .cons (Flag.refilled_of_reset hf) ih

theorem FlagSet.refilled_reset (s : FlagSet) :
    List.Forall₂ Flag.Refilled s.flags s.reset.1.flags := by
  have hflags := refilled_resetFlags s.flags
  unfold reset
  generalize resetFlags s.flags = r at hflags ⊢
  obtain ⟨flags, _ | e⟩ := r <;> exact hflags

namespace Forest

open Relation

variable {f g : Forest} {call : Call} {i id : Nat}

/-- What a call on a set leaves of the sets around it. -/
structure Framed (f g : Forest) (id : Nat) (call : Call) : Prop where
  /-- No set is made or lost, and every one keeps its parent. -/
  parents : ∀ i, g.parentAt? i = f.parentAt? i
  /-- Sets that are not the set or an ancestor of it are left alone. -/
  outside : ∀ i, ¬ ReflTransGen f.IsChild id i → g.nodes[i]? = f.nodes[i]?
  /-- An ancestor keeps its parent and all of its set but what the flags hold. -/
  ancestors : ∀ i n, TransGen f.IsChild id i → f.nodes[i]? = some n →
    ∃ t, g.nodes[i]? = some { n with set := t } ∧ n.set.Refilled t
  /-- A call that assigns nothing leaves the ancestors alone. -/
  unassigned : ¬ call.Assigns → ∀ i, TransGen f.IsChild id i → g.nodes[i]? = f.nodes[i]?
  /-- The set keeps its parent, its name, its mode and, unless one is registered, its flags. -/
  own : ∀ n, f.nodes[id]? = some n → ¬ call.Registers →
    ∃ t, g.nodes[id]? = some { n with set := t } ∧ t.name = n.set.name ∧
      t.compat = n.set.compat ∧ List.Forall₂ Flag.Refilled n.set.flags t.flags

/-! ## Nodes -/

theorem node_eq_of_setAt? {n : SetNode} {t : FlagSet} (hn : f.nodes[i]? = some n)
    (ht : g.setAt? i = some t) (hparent : g.parentAt? i = f.parentAt? i) :
    g.nodes[i]? = some { n with set := t } := by
  obtain ⟨⟨s, parent⟩, hm, rfl⟩ := setAt?_eq_some_iff.1 ht
  unfold parentAt? at hparent
  rw [hm, hn] at hparent
  obtain rfl : parent = n.parent := Option.some.inj hparent
  exact hm

theorem node_eq (hset : g.setAt? i = f.setAt? i) (hparent : g.parentAt? i = f.parentAt? i) :
    g.nodes[i]? = f.nodes[i]? := by
  cases hn : f.nodes[i]? with
  | none =>
    have hnone : f.setAt? i = none := by rw [setAt?, hn, Option.map_none]
    rw [hnone, setAt?, Option.map_eq_none_iff] at hset
    exact hset
  | some n =>
    have hn' : f.setAt? i = some n.set := setAt?_eq_some_iff.2 ⟨n, hn, rfl⟩
    exact node_eq_of_setAt? hn (hset.trans hn') hparent

/-! ## Calls -/

theorem parentAt?_perform (h : call.WorksOn id) (f : Forest) (i : Nat) :
    (f.perform call).state.parentAt? i = f.parentAt? i := by
  cases call with
  | make name => exact h.elim
  | enableCompat j => exact h.elim
  | link j parent => exact h.elim
  | add j d =>
    obtain ⟨-, e⟩ | ⟨s, p, -, -, e⟩ | ⟨s, t, -, -, e⟩ := register_cases f j d <;> rw [perform, e]
    exact parentAt?_modifySet ..
  | set j name value => exact parentAt?_onChain ..
  | parse j o args => exact parentAt?_onChain ..
  | reset j => exact parentAt?_onChain ..

/-- A call that assigns nothing changes its own set at most. -/
theorem setAt?_perform_of_ne (hf : f.Acyclic) (h : call.WorksOn id) (hcall : ¬ call.Assigns)
    (hi : i ≠ id) : (f.perform call).state.setAt? i = f.setAt? i := by
  cases call with
  | make name => exact h.elim
  | enableCompat j => exact h.elim
  | link j parent => exact h.elim
  | add j d =>
    obtain rfl : j = id := h
    obtain ⟨-, e⟩ | ⟨s, p, -, -, e⟩ | ⟨s, t, -, -, e⟩ := register_cases f j d <;> rw [perform, e]
    rw [setAt?_modifySet, if_neg hi.symm]
  | set j name value => exact absurd trivial hcall
  | parse j o args => exact absurd trivial hcall
  | reset j =>
    obtain rfl : j = id := h
    cases hc : f.chain? j with
    | none => rw [perform, onChain_of_none hc]
    | some c =>
      have hreset : c.reset = ⟨{ c with own := c.own.reset.1 }, c.own.reset.2⟩ := rfl
      rw [perform, onChain_of_own hf hc hreset, setAt?_modifySet, if_neg hi.symm]

theorem setAt?_perform_of_not_mem (hf : f.Acyclic) (h : call.WorksOn id) (hi : i ∉ f.lineage id)
    (hne : i ≠ id) : (f.perform call).state.setAt? i = f.setAt? i := by
  by_cases hcall : call.Assigns
  · cases call with
    | set j name value =>
      obtain rfl : j = id := h
      exact setAt?_onChain_of_not_mem hi
    | parse j o args =>
      obtain rfl : j = id := h
      exact setAt?_onChain_of_not_mem hi
    | _ => exact hcall.elim
  · exact setAt?_perform_of_ne hf h hcall hne

/-- What a call makes of another set than its own. -/
theorem Step.refilled {s t : FlagSet} (hstep : Step f i s call t) (h : call.WorksOn id)
    (hi : i ≠ id) : s.Refilled t := by
  cases hstep with
  | evolve hevolves _ _ => exact hevolves.refilled
  | enableCompat e =>
    subst e
    exact h.elim
  | add e _ =>
    subst e
    exact absurd h hi
  | parse e _ _ =>
    subst e
    exact absurd h hi
  | reset e _ =>
    subst e
    exact absurd h hi

/-- What a call that registers nothing makes of its own set. -/
theorem Step.own {s t : FlagSet} (hstep : Step f i s call t) (h : call.WorksOn id)
    (hcall : ¬ call.Registers) : t.name = s.name ∧ t.compat = s.compat ∧
      List.Forall₂ Flag.Refilled s.flags t.flags := by
  cases hstep with
  | evolve hevolves _ _ =>
    rw [hevolves.rest]
    exact ⟨rfl, rfl, hevolves.refilled.flags⟩
  | enableCompat e =>
    subst e
    exact h.elim
  | add e _ =>
    subst e
    exact absurd trivial hcall
  | parse _ _ hevolves =>
    rw [hevolves.rest]
    exact ⟨rfl, rfl, hevolves.refilled.flags⟩
  | reset _ _ =>
    have hshape := FlagSet.shape_reset s
    exact ⟨congrArg SetShape.name hshape, congrArg SetShape.compat hshape, s.refilled_reset⟩

/-- Every call on a set, whether it succeeds or not, keeps to the frame of the set. -/
theorem framed_perform (hf : f.Acyclic) (h : call.WorksOn id) :
    Framed f (f.perform call).state id call where
  parents := parentAt?_perform h f
  outside i hi := by
    have hmem : i ∉ f.lineage id := fun hmem => hi ((mem_lineage_iff hf).1 hmem).2
    have hne : i ≠ id := by
      rintro rfl
      exact hi .refl
    exact node_eq (setAt?_perform_of_not_mem hf h hmem hne) (parentAt?_perform h f i)
  ancestors i n hi hn := by
    have hne : i ≠ id := by
      rintro rfl
      exact hf i hi
    obtain ⟨t, ht, hstep⟩ := exists_step hf (setAt?_eq_some_iff.2 ⟨n, hn, rfl⟩) call
    exact ⟨t, node_eq_of_setAt? hn ht (parentAt?_perform h f i), hstep.refilled h hne⟩
  unassigned hcall i hi := by
    have hne : i ≠ id := by
      rintro rfl
      exact hf i hi
    exact node_eq (setAt?_perform_of_ne hf h hcall hne) (parentAt?_perform h f i)
  own n hn hcall := by
    obtain ⟨t, ht, hstep⟩ := exists_step hf (setAt?_eq_some_iff.2 ⟨n, hn, rfl⟩) call
    exact ⟨t, node_eq_of_setAt? hn ht (parentAt?_perform h f id), hstep.own h hcall⟩

/-- Two sets that share a parent, and a parse of the first that assigns a flag of the parent and
one of its own before it fails. -/
theorem framed_perform_sample :
    let f := after (Chain.sampleHistory ++ [.make "other", .link 2 1])
    let call := Call.parse 0 {} ["-v", "-n", "7", "-n", "many"]
    let texts (f : Forest) := f.nodes.map fun n => (n.set.flags.map Flag.text, n.parent)
    f.Acyclic ∧ call.WorksOn 0 ∧ (f.perform call).failure.isSome ∧
      texts f = [(["[]", "0"], some 1), (["false", "false"], none), ([], some 1)] ∧
      texts (f.perform call).state =
        [(["[]", "7"], some 1), (["true", "false"], none), ([], some 1)] ∧
      Framed f (f.perform call).state 0 call := by
  intro f call texts
  refine ⟨acyclic_after _, rfl, by decide +kernel, by decide +kernel, by decide +kernel, ?_⟩
  exact framed_perform (acyclic_after _) rfl

end Forest

end LayeredFlags
