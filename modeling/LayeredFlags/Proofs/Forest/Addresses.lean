import LayeredFlags.Proofs.Chain.Addressing
import LayeredFlags.Proofs.Forest.Lineage

/-!
# Addresses of flags

A place names a set by the number of steps to the parent that lead to it.  The list of all flags,
the search for a flag and the walk to a place count these steps alike: a listed place leads back to
its flag, however far up the flag stands, and a change there reaches that flag alone.
-/

namespace LayeredFlags.Forest

variable {f : Forest} {c : Chain} {i j id depth : Nat} {place : FlagId} {g : Flag}

/-! ## Steps to the parent -/

/-- The number of the set that so many steps to the parent lead to. -/
def ancestor? (f : Forest) : (depth : Nat) → Nat → Option Nat
  | 0, i => some i
  | depth + 1, i => (f.parentAt? i).join.bind (f.ancestor? depth)

theorem ancestor?_succ_of_none (h : f.nodes[i]? = none) : f.ancestor? (depth + 1) i = none := by
  rw [ancestor?, parentAt?, h]
  rfl

theorem ancestor?_succ_of_some {n : SetNode} (h : f.nodes[i]? = some n) :
    f.ancestor? (depth + 1) i = n.parent.bind (f.ancestor? depth) := by
  rw [ancestor?, parentAt?, h]
  rfl

/-- A lineage has at each depth the set that so many steps lead to, if there is one. -/
theorem getElem?_lineageIn_eq_some_iff {steps : Nat} (h : depth < steps) :
    (f.lineageIn steps i)[depth]? = some j ↔ f.ancestor? depth i = some j ∧ j < f.nodes.length := by
  induction depth generalizing steps i with
  | zero =>
    obtain ⟨steps, rfl⟩ : ∃ k, steps = k + 1 := ⟨steps - 1, by omega⟩
    rw [ancestor?, Option.some_inj]
    by_cases hi : i < f.nodes.length
    · rw [lineageIn_of_some (List.getElem?_eq_getElem hi), List.getElem?_cons_zero, Option.some_inj]
      exact ⟨fun e => ⟨e, e ▸ hi⟩, fun e => e.1⟩
    · rw [lineageIn_of_none (List.getElem?_eq_none (Nat.le_of_not_lt hi))]
      simp only [List.getElem?_nil, reduceCtorEq, false_iff]
      rintro ⟨rfl, hj⟩
      exact hi hj
  | succ depth ih =>
    obtain ⟨steps, rfl⟩ : ∃ k, steps = k + 1 := ⟨steps - 1, by omega⟩
    cases hn : f.nodes[i]? with
    | none => simp [lineageIn_of_none hn, ancestor?_succ_of_none hn]
    | some n =>
      rw [lineageIn_of_some hn, ancestor?_succ_of_some hn, List.getElem?_cons_succ]
      cases n.parent with
      | none => simp
      | some p => exact ih (Nat.lt_of_succ_lt_succ h)

theorem getElem?_lineage_eq_some_iff (hf : f.AcyclicAbove i) :
    (f.lineage i)[depth]? = some j ↔ f.ancestor? depth i = some j ∧ j < f.nodes.length := by
  rw [← lineageIn_eq_lineage hf (Nat.le_add_right _ (depth + 1))]
  exact getElem?_lineageIn_eq_some_iff (by omega)

/-- The sets of a chain are those that the steps to the parent lead to. -/
theorem getElem?_sets_eq_some_iff (hf : f.AcyclicAbove id) (hc : f.chain? id = some c)
    {s : FlagSet} :
    c.sets[depth]? = some s ↔ ∃ i, f.ancestor? depth id = some i ∧ f.setAt? i = some s := by
  have hsets := congrArg (·[depth]?) (chain?_eq_some_iff.1 hc)
  simp only [List.getElem?_map] at hsets
  calc c.sets[depth]? = some s
      ↔ c.sets[depth]?.map some = some (some s) := by simp
    _ ↔ ∃ i, (f.lineage id)[depth]? = some i ∧ f.setAt? i = some s := by
      rw [← hsets, Option.map_eq_some_iff]
    _ ↔ ∃ i, f.ancestor? depth id = some i ∧ f.setAt? i = some s := by
      refine exists_congr fun i => ?_
      rw [getElem?_lineage_eq_some_iff hf, and_assoc]
      exact and_congr_right fun _ => and_iff_right_of_imp lt_of_setAt?

/-! ## Reading and changing a flag -/

/-- The flag at a place seen from a set. -/
def flagAt? (f : Forest) (id : Nat) (place : FlagId) : Option Flag :=
  ((f.ancestor? place.depth id).bind f.setAt?).bind fun s => s.flags[place.index]?

/-- The forest with the flag at a place changed, seen from a set. -/
def modifyFlag (f : Forest) (id : Nat) (place : FlagId) (h : Flag → Flag) : Forest :=
  match f.ancestor? place.depth id with
  | none => f
  | some i => f.modifySet i fun s => { s with flags := s.flags.modify place.index h }

theorem flagAt?_of_chain? (hf : f.AcyclicAbove id) (hc : f.chain? id = some c) (place : FlagId) :
    f.flagAt? id place = c.flagAt? place := by
  have hsets : c.sets[place.depth]? = (f.ancestor? place.depth id).bind f.setAt? := by
    ext s
    rw [getElem?_sets_eq_some_iff hf hc, Option.bind_eq_some_iff]
  rw [flagAt?, Chain.flagAt?, hsets]

theorem modifyFlag_eq (hf : f.AcyclicAbove id) (hc : f.chain? id = some c)
    (hg : c.flagAt? place = some g) (h : Flag → Flag) :
    ∃ i, f.ancestor? place.depth id = some i ∧ (f.lineage id)[place.depth]? = some i ∧
      f.modifyFlag id place h = f.modifySet i (Chain.replaceIn · place.index (h g)) := by
  obtain ⟨s, hs, hflag⟩ := Chain.flagAt?_eq_some_iff.1 hg
  obtain ⟨i, hi, hset⟩ := (getElem?_sets_eq_some_iff hf hc).1 hs
  refine ⟨i, hi, (getElem?_lineage_eq_some_iff hf).2 ⟨hi, lt_of_setAt? hset⟩, ?_⟩
  rw [modifyFlag, hi]
  refine modifySet_congr hset ?_
  rw [Chain.replaceIn, List.modify_eq_set_getElem?, hflag]
  rfl

/-- All that changes is the flag at a place seen from a set, which is another one afterwards. -/
structure FlagChanged (f : Forest) (id : Nat) (c : Chain) (place : FlagId) (g : Flag)
    (f' : Forest) : Prop where
  /-- The chain of the set has the new flag in place of the old one. -/
  chain : f'.chain? id = some (c.replace place g)
  /-- An operation on the chain that replaces the flag does the same. -/
  operation : f.onChain id (fun c => ⟨c.replace place g, none⟩) = ⟨f', none⟩
  here : f'.flagAt? id place = some g
  others : ∀ place' ≠ place, f'.flagAt? id place' = f.flagAt? id place'
  /-- The sets that the steps to the parent do not lead to are as they were. -/
  elsewhere : ∀ i, f.ancestor? place.depth id ≠ some i → f'.setAt? i = f.setAt? i

theorem flagChanged_modifyFlag (hf : f.AcyclicAbove id) (hc : f.chain? id = some c)
    (hg : c.flagAt? place = some g) (h : Flag → Flag) :
    f.FlagChanged id c place (h g) (f.modifyFlag id place h) := by
  obtain ⟨i, hi, hk, e⟩ := modifyFlag_eq hf hc hg h
  have hsets := Chain.sets_replace c place (h g)
  have hchain : (f.modifyFlag id place h).chain? id = some (c.replace place (h g)) := by
    rw [e]
    exact chain?_modifySet hf hc hsets hk
  have hf' : (f.modifyFlag id place h).AcyclicAbove id := by
    rw [e]
    exact hf.mono fun _ _ => isChild_modifySet.1
  refine ⟨hchain, ?_, ?_, fun place' hne => ?_, fun i' hi' => ?_⟩
  · rw [e]
    exact onChain_of_modify hf hc rfl hsets hk
  · rw [flagAt?_of_chain? hf' hchain]
    exact Chain.flagAt?_replace_self hg
  · rw [flagAt?_of_chain? hf' hchain, flagAt?_of_chain? hf hc]
    exact Chain.flagAt?_replace_of_ne hne
  · have hne : i ≠ i' := by
      rintro rfl
      exact hi' hi
    rw [e, setAt?_modifySet, if_neg hne]

/-! ## Addresses -/

/-- The list of all flags gives each flag of a chain a place, and whatever takes a place or gives
one agrees with the list. -/
structure Addressed (f : Forest) (id : Nat) (c : Chain) : Prop where
  /-- All flags are listed, nearest set first and those of a set in the order of registration. -/
  flags : c.located.map Prod.snd = c.sets.flatMap FlagSet.flags
  ordered : (c.located.map Prod.fst).Pairwise FlagId.Before
  distinct : (c.located.map Prod.fst).Nodup
  /-- A flag is listed at a place exactly if the walk to the place ends at the flag. -/
  listed : ∀ place g, (place, g) ∈ c.located ↔ f.flagAt? id place = some g
  read : ∀ place, c.flagAt? place = f.flagAt? id place
  changed : ∀ place g h, (place, g) ∈ c.located →
    f.FlagChanged id c place (h g) (f.modifyFlag id place h)
  /-- A search gives the place of the first flag of the kind in the list. -/
  found : ∀ p, c.locate p = (c.located.find? fun v => p v.2).map Prod.fst
  missed : ∀ p, c.locate p = none ↔ ∀ v ∈ c.located, p v.2 = false

/-- In a chain without a cycle, of any length, places address the flags that they come from. -/
theorem addressed_of_chain? (hf : f.AcyclicAbove id) (hc : f.chain? id = some c) :
    f.Addressed id c where
  flags := Chain.map_snd_located c
  ordered := Chain.pairwise_located c
  distinct := Chain.nodup_located c
  listed place g := by rw [flagAt?_of_chain? hf hc, Chain.mem_located_iff]
  read place := (flagAt?_of_chain? hf hc place).symm
  changed place g h hmem := flagChanged_modifyFlag hf hc (Chain.mem_located_iff.1 hmem) h
  found := Chain.locate_eq_find? c
  missed p := by simp [Chain.locate_eq_find?]

/-- The flag of the topmost set. -/
def towerDecl : FlagDecl :=
  { names := { long := some "level" }, value := .ofDefault .uint64 (.int 3) }

/-- The sets of the sample, and a third one above them. -/
def towerHistory : List Call :=
  Chain.sampleHistory ++ [.make "root", .link 1 2, .add 2 towerDecl]

/-- The chain of the first set. -/
def towerChain : Chain :=
  { Chain.grownChain with
    ancestors := Chain.grownChain.ancestors ++ [{ name := "root", flags := [.ofDecl towerDecl] }] }

/-- The flag of the grandparent stands two steps up. -/
theorem addressed_of_chain?_sample :
    let f := after towerHistory
    f.AcyclicAbove 0 ∧ f.chain? 0 = some towerChain ∧ f.Addressed 0 towerChain ∧
      towerChain.located.map Prod.fst = [⟨0, 0⟩, ⟨0, 1⟩, ⟨1, 0⟩, ⟨1, 1⟩, ⟨2, 0⟩] ∧
      towerChain.locate (·.names.hasLong "level") = some ⟨2, 0⟩ ∧
      f.flagAt? 0 ⟨2, 0⟩ = some (.ofDecl towerDecl) :=
  have hf := (acyclic_after towerHistory).above 0
  ⟨hf, rfl, addressed_of_chain? hf rfl, by decide, by decide, rfl⟩

end LayeredFlags.Forest
