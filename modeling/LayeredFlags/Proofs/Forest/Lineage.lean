import LayeredFlags.Proofs.Forest.History
import Mathlib.Logic.Relation
import Mathlib.Data.List.Perm.Subperm

/-!
# Lineages

A parent that would lead back to its child is not taken, so after any history of calls no set is
among its own ancestors.  Hence a lineage names every set once, an operation on a chain leaves each
set of the lineage as the operation made it, and sets outside the lineage see nothing of it.
-/

namespace LayeredFlags.Forest

open Relation

variable {f g : Forest} {c : Chain} {i j id : Nat} {ids : List Nat} {sets : List FlagSet}

/-- The set with a number. -/
def setAt? (f : Forest) (i : Nat) : Option FlagSet := (f.nodes[i]?).map SetNode.set

/-- The parent of the set with a number. -/
def parentAt? (f : Forest) (i : Nat) : Option (Option Nat) := (f.nodes[i]?).map SetNode.parent

/-- One set is put under another. -/
def IsChild (f : Forest) (i j : Nat) : Prop := ∃ n, f.nodes[i]? = some n ∧ n.parent = some j

/-- No set is among its own ancestors. -/
def Acyclic (f : Forest) : Prop := ∀ i, ¬ TransGen f.IsChild i i

/-- Neither the set with a number nor any of its ancestors is among its own ancestors. -/
def AcyclicAbove (f : Forest) (i : Nat) : Prop :=
  ∀ j, ReflTransGen f.IsChild i j → ¬ TransGen f.IsChild j j

theorem Acyclic.above (hf : f.Acyclic) (i : Nat) : f.AcyclicAbove i := fun j _ => hf j

theorem AcyclicAbove.parent (hf : f.AcyclicAbove i) (h : f.IsChild i j) : f.AcyclicAbove j :=
  fun k hk => hf k (hk.head h)

theorem setAt?_eq_some_iff {s : FlagSet} :
    f.setAt? i = some s ↔ ∃ n, f.nodes[i]? = some n ∧ n.set = s :=
  Option.map_eq_some_iff

theorem isChild_iff : f.IsChild i j ↔ f.parentAt? i = some (some j) :=
  Option.map_eq_some_iff.symm

theorem setAt?_insert (f : Forest) (s : FlagSet) (parent : Option Nat) (i : Nat) :
    (f.insert s parent).1.setAt? i =
      if i = f.nodes.length then some s else f.setAt? i := by
  unfold setAt? insert
  rw [List.getElem?_append]
  split_ifs with hlt he he
  · omega
  · rfl
  · simp [he]
  · have hnone : f.nodes[i]? = none := List.getElem?_eq_none (by omega)
    have hlast : ([⟨s, parent⟩] : List SetNode)[i - f.nodes.length]? = none :=
      List.getElem?_eq_none (by simp; omega)
    rw [hnone, hlast]

theorem setAt?_link (f : Forest) (id : Nat) (parent : Option Nat) (i : Nat) :
    (f.link id parent).setAt? i = f.setAt? i := by
  unfold setAt? link
  rw [List.getElem?_modify]
  split_ifs
  · cases f.nodes[i]? <;> rfl
  · rw [id_map']

/-! ## Lineages -/

theorem lineageIn_of_none {steps : Nat} (h : f.nodes[i]? = none) : f.lineageIn steps i = [] := by
  cases steps with
  | zero => rfl
  | succ steps => rw [lineageIn, h]

theorem lineageIn_of_some {steps : Nat} {n : SetNode} (h : f.nodes[i]? = some n) :
    f.lineageIn (steps + 1) i = i :: (n.parent.map (f.lineageIn steps)).getD [] := by
  rw [lineageIn, h]

/-- A set and its ancestors are made up of the set and its parent's lineage. -/
theorem mem_lineageIn_succ {steps : Nat} :
    j ∈ f.lineageIn (steps + 1) i ↔
      i < f.nodes.length ∧ (j = i ∨ ∃ p, f.IsChild i p ∧ j ∈ f.lineageIn steps p) := by
  cases hn : f.nodes[i]? with
  | none =>
    rw [lineageIn_of_none hn]
    rw [List.getElem?_eq_none_iff] at hn
    simp only [List.not_mem_nil, false_iff, not_and]
    omega
  | some n =>
    have hlt : i < f.nodes.length := (List.getElem?_eq_some_iff.1 hn).1
    have hchild (p : Nat) : f.IsChild i p ↔ n.parent = some p := by
      simp [IsChild, hn]
    rw [lineageIn_of_some hn, List.mem_cons]
    simp only [hlt, true_and, hchild]
    cases n.parent <;> simp

theorem lt_of_mem_lineageIn {steps : Nat} (h : j ∈ f.lineageIn steps i) : j < f.nodes.length := by
  induction steps generalizing i with
  | zero => cases h
  | succ steps ih =>
    obtain ⟨hi, rfl | ⟨p, -, hj⟩⟩ := mem_lineageIn_succ.1 h
    · exact hi
    · exact ih hj

theorem reaches_of_mem_lineageIn {steps : Nat} (h : j ∈ f.lineageIn steps i) :
    ReflTransGen f.IsChild i j := by
  induction steps generalizing i with
  | zero => cases h
  | succ steps ih =>
    obtain ⟨-, rfl | ⟨p, hp, hj⟩⟩ := mem_lineageIn_succ.1 h
    · exact .refl
    · exact (ih hj).head hp

theorem lineageIn_succ_eq (steps : Nat) (h : i < f.nodes.length) :
    ∃ rest, f.lineageIn (steps + 1) i = i :: rest ∧
      (rest = [] ∨ ∃ p, f.IsChild i p ∧ rest = f.lineageIn steps p) := by
  have hn := List.getElem?_eq_getElem h
  refine ⟨_, lineageIn_of_some hn, ?_⟩
  cases hp : f.nodes[i].parent with
  | none => exact .inl rfl
  | some p => exact .inr ⟨p, ⟨_, hn, hp⟩, rfl⟩

/-- Without a cycle no set comes twice in a lineage. -/
theorem nodup_lineageIn (hf : f.AcyclicAbove i) (steps : Nat) :
    (f.lineageIn steps i).Nodup := by
  induction steps generalizing i with
  | zero => exact List.nodup_nil
  | succ steps ih =>
    by_cases hi : i < f.nodes.length
    · obtain ⟨rest, e, rfl | ⟨p, hp, rfl⟩⟩ := lineageIn_succ_eq (f := f) steps hi <;> rw [e]
      · exact List.nodup_singleton i
      · refine List.nodup_cons.2 ⟨fun hmem => ?_, ih (hf.parent hp)⟩
        -- the set among its ancestors would be a way from it back to it
        exact hf i .refl (.head' hp (reaches_of_mem_lineageIn hmem))
    · rw [lineageIn_of_none (by rwa [List.getElem?_eq_none_iff, ← Nat.not_lt])]
      exact List.nodup_nil

theorem nodup_lineage (hf : f.AcyclicAbove i) : (f.lineage i).Nodup :=
  nodup_lineageIn hf f.nodes.length

theorem length_lineageIn_le (hf : f.AcyclicAbove i) (steps : Nat) :
    (f.lineageIn steps i).length ≤ f.nodes.length := by
  have hsub : f.lineageIn steps i ⊆ List.range f.nodes.length :=
    fun j hj => List.mem_range.2 (lt_of_mem_lineageIn hj)
  have := ((nodup_lineageIn hf steps).subperm hsub).length_le
  rwa [List.length_range] at this

/-- In fewer steps one sees the beginning of a lineage. -/
theorem lineageIn_eq_take {steps more : Nat} (h : steps ≤ more) (i : Nat) :
    f.lineageIn steps i = (f.lineageIn more i).take steps := by
  induction steps generalizing more i with
  | zero => rfl
  | succ steps ih =>
    obtain ⟨more, rfl⟩ : ∃ k, more = k + 1 := ⟨more - 1, by omega⟩
    cases hn : f.nodes[i]? with
    | none => rw [lineageIn_of_none hn, lineageIn_of_none hn, List.take_nil]
    | some n =>
      rw [lineageIn_of_some hn, lineageIn_of_some hn, List.take_succ_cons]
      cases n.parent with
      | none => exact congrArg _ List.take_nil.symm
      | some p => exact congrArg _ (ih (by omega) p)

/-- As many steps as there are sets see the whole lineage. -/
theorem lineageIn_eq_lineage (hf : f.AcyclicAbove i) {steps : Nat}
    (h : f.nodes.length ≤ steps) : f.lineageIn steps i = f.lineage i := by
  rw [lineage, lineageIn_eq_take h, List.take_of_length_le (length_lineageIn_le hf steps)]

/-- A lineage holds all ancestors that exist. -/
theorem mem_lineage_iff (hf : f.Acyclic) :
    j ∈ f.lineage i ↔ j < f.nodes.length ∧ ReflTransGen f.IsChild i j := by
  constructor
  · exact fun h => ⟨lt_of_mem_lineageIn h, reaches_of_mem_lineageIn h⟩
  · rintro ⟨hj, h⟩
    -- some number of steps reaches the ancestor, and without a cycle the number of sets is enough
    have hmany : ∃ steps, j ∈ f.lineageIn steps i := by
      induction h using ReflTransGen.head_induction_on with
      | refl => exact ⟨1, mem_lineageIn_succ.2 ⟨hj, .inl rfl⟩⟩
      | @head k p hp _ ih =>
        obtain ⟨steps, hmem⟩ := ih
        have hk : k < f.nodes.length := by
          obtain ⟨n, hn, -⟩ := hp
          exact (List.getElem?_eq_some_iff.1 hn).1
        exact ⟨steps + 1, mem_lineageIn_succ.2 ⟨hk, .inr ⟨p, hp, hmem⟩⟩⟩
    obtain ⟨steps, hmem⟩ := hmany
    rw [lineageIn_eq_take (Nat.le_add_right steps f.nodes.length),
      lineageIn_eq_lineage (hf.above i) (Nat.le_add_left ..)] at hmem
    exact List.mem_of_mem_take hmem

/-! ## Chains -/

theorem lt_of_setAt? {s : FlagSet} (h : f.setAt? i = some s) : i < f.nodes.length := by
  obtain ⟨n, hn, -⟩ := setAt?_eq_some_iff.1 h
  exact (List.getElem?_eq_some_iff.1 hn).1

theorem setAt?_of_lt (h : i < f.nodes.length) : ∃ s, f.setAt? i = some s :=
  ⟨f.nodes[i].set, setAt?_eq_some_iff.2 ⟨_, List.getElem?_eq_getElem h, rfl⟩⟩

theorem lineage_eq_cons (h : i < f.nodes.length) : ∃ rest, f.lineage i = i :: rest := by
  obtain ⟨steps, hsteps⟩ : ∃ k, f.nodes.length = k + 1 := ⟨f.nodes.length - 1, by omega⟩
  obtain ⟨rest, e, -⟩ := lineageIn_succ_eq (f := f) steps h
  exact ⟨rest, by rw [lineage, hsteps, e]⟩

/-- A set stands first in its lineage and nowhere else. -/
theorem lineage_eq_cons_of_acyclic (hf : f.Acyclic) (h : i < f.nodes.length) :
    ∃ rest, f.lineage i = i :: rest ∧ i ∉ rest := by
  obtain ⟨rest, hrest⟩ := lineage_eq_cons h
  have hnodup := nodup_lineage (hf.above i)
  rw [hrest, List.nodup_cons] at hnodup
  exact ⟨rest, hrest, hnodup.1⟩

theorem map_setAt?_lineage (f : Forest) (i : Nat) :
    (f.lineage i).map f.setAt? = ((f.lineage i).filterMap f.setAt?).map some := by
  have hlt : ∀ j ∈ f.lineage i, j < f.nodes.length := fun j hj => lt_of_mem_lineageIn hj
  generalize f.lineage i = ids at hlt ⊢
  induction ids with
  | nil => rfl
  | cons j ids ih =>
    obtain ⟨s, hs⟩ := setAt?_of_lt (hlt j (List.mem_cons_self ..))
    rw [List.filterMap_cons_some hs, List.map_cons, List.map_cons, hs,
      ih fun k hk => hlt k (List.mem_cons_of_mem _ hk)]

/-- The chain of a set consists of the sets of its lineage. -/
theorem chain?_eq_some_iff :
    f.chain? i = some c ↔ (f.lineage i).map f.setAt? = c.sets.map some := by
  have hinj : Function.Injective (List.map (some : FlagSet → Option FlagSet)) :=
    List.map_injective_iff.2 fun _ _ => Option.some.inj
  have hsets : ((f.lineage i).filterMap fun j => (f.nodes[j]?).map SetNode.set) =
      (f.lineage i).filterMap f.setAt? := rfl
  obtain ⟨own, ancestors⟩ := c
  rw [map_setAt?_lineage, hinj.eq_iff, chain?, hsets]
  cases (f.lineage i).filterMap f.setAt? <;> simp [Chain.sets]

theorem exists_chain? (h : i < f.nodes.length) : ∃ c, f.chain? i = some c := by
  obtain ⟨rest, hrest⟩ := lineage_eq_cons h
  obtain ⟨s, hs⟩ := setAt?_of_lt h
  refine ⟨⟨s, rest.filterMap f.setAt?⟩, chain?_eq_some_iff.2 ?_⟩
  rw [map_setAt?_lineage, hrest, List.filterMap_cons_some hs]
  rfl

theorem lt_of_chain? (h : f.chain? i = some c) : i < f.nodes.length := by
  by_contra hi
  have hnil : f.lineage i = [] :=
    lineageIn_of_none (by rwa [List.getElem?_eq_none_iff, ← Nat.not_lt])
  rw [chain?_eq_some_iff, hnil] at h
  cases h

theorem setAt?_of_chain? (h : f.chain? i = some c) : f.setAt? i = some c.own := by
  obtain ⟨rest, hrest⟩ := lineage_eq_cons (lt_of_chain? h)
  rw [chain?_eq_some_iff, hrest] at h
  exact (List.cons.inj h).1

/-! ## Writing sets back -/

theorem setAt?_modifySet (f : Forest) (id i : Nat) (g : FlagSet → FlagSet) :
    (f.modifySet id g).setAt? i = if id = i then (f.setAt? i).map g else f.setAt? i := by
  unfold setAt? modifySet
  rw [List.getElem?_modify]
  split_ifs with h
  · cases f.nodes[i]? <;> rfl
  · rw [id_map']

theorem parentAt?_modifySet (f : Forest) (id : Nat) (g : FlagSet → FlagSet) (i : Nat) :
    (f.modifySet id g).parentAt? i = f.parentAt? i := by
  unfold parentAt? modifySet
  rw [List.getElem?_modify]
  split_ifs
  · cases f.nodes[i]? <;> rfl
  · rw [id_map']

theorem parentAt?_writeBack (f : Forest) (ids : List Nat) (sets : List FlagSet) (i : Nat) :
    (f.writeBack ids sets).parentAt? i = f.parentAt? i := by
  induction ids generalizing f sets with
  | nil => rfl
  | cons id ids ih =>
    cases sets with
    | nil => rfl
    | cons s sets => rw [writeBack, ih, parentAt?_modifySet]

theorem length_modifySet (f : Forest) (id : Nat) (g : FlagSet → FlagSet) :
    (f.modifySet id g).nodes.length = f.nodes.length :=
  List.length_modify ..

theorem setAt?_writeBack_of_not_mem (h : i ∉ ids) :
    (f.writeBack ids sets).setAt? i = f.setAt? i := by
  induction ids generalizing f sets with
  | nil => rfl
  | cons id ids ih =>
    cases sets with
    | nil => rfl
    | cons s sets =>
      rw [List.mem_cons, not_or] at h
      rw [writeBack, ih h.2, setAt?_modifySet, if_neg (Ne.symm h.1)]

/-- What is written back is there afterwards. -/
theorem map_setAt?_writeBack (hnodup : ids.Nodup) (hlt : ∀ i ∈ ids, i < f.nodes.length)
    (hlen : sets.length = ids.length) : ids.map (f.writeBack ids sets).setAt? = sets.map some := by
  induction ids generalizing f sets with
  | nil => rw [List.length_eq_zero_iff.1 hlen]; rfl
  | cons id ids ih =>
    cases sets with
    | nil => cases hlen
    | cons s sets =>
      obtain ⟨hnot, hnodup⟩ := List.nodup_cons.1 hnodup
      obtain ⟨old, hold⟩ := setAt?_of_lt (hlt id (List.mem_cons_self ..))
      rw [writeBack, List.map_cons, List.map_cons, setAt?_writeBack_of_not_mem hnot,
        setAt?_modifySet, if_pos rfl, hold, ih hnodup ?_ (by simpa using hlen)]
      · rfl
      intro i hi
      rw [length_modifySet]
      exact hlt i (List.mem_cons_of_mem _ hi)

/-- Two changes of a set that make the same of it are the same. -/
theorem modifySet_congr {s : FlagSet} {g h : FlagSet → FlagSet} (hs : f.setAt? id = some s)
    (e : g s = h s) : f.modifySet id g = f.modifySet id h := by
  obtain ⟨n, hn, rfl⟩ := setAt?_eq_some_iff.1 hs
  unfold modifySet
  congr 1
  apply List.ext_getElem?
  intro i
  rw [List.getElem?_modify, List.getElem?_modify]
  split_ifs with hi
  · rw [← hi, hn]
    exact congrArg (fun t => some { n with set := t }) e
  · rfl

theorem modifySet_self {s : FlagSet} (hs : f.setAt? id = some s) :
    (f.modifySet id fun _ => s) = f := by
  have hid : f.modifySet id (fun t => t) = f := by
    unfold modifySet
    exact congrArg Forest.mk (List.modify_id id f.nodes)
  rw [modifySet_congr (h := fun t => t) hs rfl, hid]

/-- Writing back what is there changes nothing. -/
theorem writeBack_self (h : ids.map f.setAt? = sets.map some) : f.writeBack ids sets = f := by
  induction ids generalizing sets with
  | nil => rfl
  | cons id ids ih =>
    cases sets with
    | nil => rfl
    | cons s sets =>
      rw [List.map_cons, List.map_cons] at h
      obtain ⟨hs, hsets⟩ := List.cons.inj h
      rw [writeBack, modifySet_self hs, ih hsets]

/-- Writing back what is there but for one set changes that set. -/
theorem writeBack_modify {k : Nat} {g : FlagSet → FlagSet} (hnodup : ids.Nodup)
    (h : ids.map f.setAt? = sets.map some) (hk : ids[k]? = some j) :
    f.writeBack ids (sets.modify k g) = f.modifySet j g := by
  induction ids generalizing sets k with
  | nil => cases hk
  | cons id ids ih =>
    cases sets with
    | nil => cases h
    | cons s sets =>
      obtain ⟨hnot, hnodup⟩ := List.nodup_cons.1 hnodup
      obtain ⟨hs, hsets⟩ := List.cons.inj h
      cases k with
      | zero =>
        obtain rfl : id = j := Option.some.inj hk
        have hrest : ids.map (f.modifySet id fun _ => g s).setAt? = sets.map some := by
          rw [← hsets]
          refine List.map_congr_left fun i hi => ?_
          have hne : id ≠ i := by
            rintro rfl
            exact hnot hi
          rw [setAt?_modifySet, if_neg hne]
        rw [List.modify_zero_cons, writeBack, writeBack_self hrest]
        exact modifySet_congr hs rfl
      | succ k =>
        rw [List.modify_succ_cons, writeBack, modifySet_self hs]
        exact ih hnodup hsets hk

theorem lineage_modifySet (f : Forest) (id : Nat) (g : FlagSet → FlagSet) (i : Nat) :
    (f.modifySet id g).lineage i = f.lineage i := by
  have key (steps : Nat) : (f.modifySet id g).lineageIn steps i = f.lineageIn steps i := by
    induction steps generalizing i with
    | zero => rfl
    | succ steps ih =>
      have hnode := parentAt?_modifySet f id g i
      unfold parentAt? at hnode
      cases hn : f.nodes[i]? with
      | none =>
        rw [hn, Option.map_none, Option.map_eq_none_iff] at hnode
        rw [lineageIn_of_none hn, lineageIn_of_none hnode]
      | some n =>
        rw [hn, Option.map_some, Option.map_eq_some_iff] at hnode
        obtain ⟨m, hm, hparent⟩ := hnode
        rw [lineageIn_of_some hn, lineageIn_of_some hm, hparent, funext ih]
  rw [lineage, key, length_modifySet, lineage]

theorem lineage_writeBack (f : Forest) (ids : List Nat) (sets : List FlagSet) (i : Nat) :
    (f.writeBack ids sets).lineage i = f.lineage i := by
  induction ids generalizing f sets with
  | nil => rfl
  | cons id ids ih =>
    cases sets with
    | nil => rfl
    | cons s sets => rw [writeBack, ih, lineage_modifySet]

theorem isChild_modifySet {g : FlagSet → FlagSet} :
    (f.modifySet id g).IsChild i j ↔ f.IsChild i j := by
  rw [isChild_iff, isChild_iff, parentAt?_modifySet]

/-- The chain after a change to one of its sets. -/
theorem chain?_modifySet {d : Chain} {k : Nat} {g : FlagSet → FlagSet} (hf : f.AcyclicAbove id)
    (hc : f.chain? id = some c) (hd : d.sets = c.sets.modify k g)
    (hk : (f.lineage id)[k]? = some j) : (f.modifySet j g).chain? id = some d := by
  have hsets := chain?_eq_some_iff.1 hc
  have hlen : (c.sets.modify k g).length = (f.lineage id).length := by
    simpa using (congrArg List.length hsets).symm
  rw [chain?_eq_some_iff, lineage_modifySet, hd, ← writeBack_modify (nodup_lineage hf) hsets hk]
  exact map_setAt?_writeBack (nodup_lineage hf) (fun i hi => lt_of_mem_lineageIn hi) hlen

/-! ## Operations -/

/-- What a registration does: nothing without the set, nothing but the failure, or the new set in
its place. -/
theorem register_cases (f : Forest) (id : Nat) (d : FlagDecl) :
    (f.setAt? id = none ∧ f.register id d = ⟨f, none⟩) ∨
      (∃ s e, f.setAt? id = some s ∧ s.add d = .error e ∧ f.register id d = ⟨f, some e⟩) ∨
      ∃ s t, f.setAt? id = some s ∧ s.add d = .ok t ∧
        f.register id d = ⟨f.modifySet id fun _ => t, none⟩ := by
  unfold register setAt?
  cases f.nodes[id]? with
  | none => exact .inl ⟨rfl, rfl⟩
  | some n =>
    cases h : n.set.add d with
    | error e => exact .inr (.inl ⟨n.set, e, rfl, h, by simp only [h]⟩)
    | ok t => exact .inr (.inr ⟨n.set, t, rfl, h, by simp only [h]⟩)

theorem register_of_error {s : FlagSet} {d : FlagDecl} {e : FlagError} (hs : f.setAt? id = some s)
    (h : s.add d = .error e) : f.register id d = ⟨f, some e⟩ := by
  obtain ⟨n, hn, rfl⟩ := setAt?_eq_some_iff.1 hs
  unfold register
  simp only [hn, h]

variable {op : Chain → Attempt Chain}

theorem onChain_of_none (hc : f.chain? id = none) : f.onChain id op = ⟨f, none⟩ := by
  unfold onChain
  rw [hc]

theorem onChain_of_chain? (hc : f.chain? id = some c) :
    f.onChain id op = ⟨f.writeBack (f.lineage id) (op c).state.sets, (op c).failure⟩ := by
  unfold onChain
  rw [hc]

/-- An operation that does nothing but fail does so on the forest too. -/
theorem onChain_of_failure {e : FlagError} (hc : f.chain? id = some c) (h : op c = ⟨c, some e⟩) :
    f.onChain id op = ⟨f, some e⟩ := by
  rw [onChain_of_chain? hc, h, writeBack_self (chain?_eq_some_iff.1 hc)]

/-- Sets outside the lineage see nothing of an operation. -/
theorem setAt?_onChain_of_not_mem (h : i ∉ f.lineage id) :
    (f.onChain id op).state.setAt? i = f.setAt? i := by
  cases hc : f.chain? id with
  | none => rw [onChain_of_none hc]
  | some c =>
    rw [onChain_of_chain? hc]
    exact setAt?_writeBack_of_not_mem h

theorem parentAt?_onChain (f : Forest) (id i : Nat) :
    (f.onChain id op).state.parentAt? i = f.parentAt? i := by
  cases hc : f.chain? id with
  | none => rw [onChain_of_none hc]
  | some c =>
    rw [onChain_of_chain? hc]
    exact parentAt?_writeBack ..

theorem map_setAt?_onChain (hf : f.Acyclic) (hc : f.chain? id = some c)
    (hlen : (op c).state.sets.length = c.sets.length) :
    (f.lineage id).map (f.onChain id op).state.setAt? = (op c).state.sets.map some := by
  have hlineage : (f.lineage id).length = c.sets.length := by
    simpa using congrArg List.length (chain?_eq_some_iff.1 hc)
  rw [onChain_of_chain? hc]
  exact map_setAt?_writeBack (nodup_lineage (hf.above id))
    (fun j hj => lt_of_mem_lineageIn hj) (hlen.trans hlineage.symm)

/-- Every set of the lineage is afterwards what the operation made of it. -/
theorem setAt?_onChain (hf : f.Acyclic) (hc : f.chain? id = some c)
    (hlen : (op c).state.sets.length = c.sets.length) {k : Nat}
    (hk : (f.lineage id)[k]? = some i) :
    f.setAt? i = c.sets[k]? ∧ (f.onChain id op).state.setAt? i = (op c).state.sets[k]? := by
  have key {g : Forest} {sets : List FlagSet}
      (h : (f.lineage id).map g.setAt? = sets.map some) : g.setAt? i = sets[k]? := by
    have h := congrArg (·[k]?) h
    simp only [List.getElem?_map, hk, Option.map_some] at h
    cases hs : sets[k]? with
    | none =>
      rw [hs] at h
      cases h
    | some s =>
      rw [hs] at h
      exact Option.some.inj h
  exact ⟨key (chain?_eq_some_iff.1 hc), key (map_setAt?_onChain hf hc hlen)⟩

/-- The chain of the set is afterwards what the operation made of it. -/
theorem chain?_onChain (hf : f.Acyclic) (hc : f.chain? id = some c)
    (hlen : (op c).state.sets.length = c.sets.length) :
    (f.onChain id op).state.chain? id = some (op c).state := by
  have hlineage : (f.onChain id op).state.lineage id = f.lineage id := by
    rw [onChain_of_chain? hc]
    exact lineage_writeBack ..
  rw [chain?_eq_some_iff, hlineage]
  exact map_setAt?_onChain hf hc hlen

/-- An operation that changes one set of the chain changes no other set of the forest. -/
theorem onChain_of_modify {d : Chain} {e : Option FlagError} {k : Nat} {g : FlagSet → FlagSet}
    (hf : f.AcyclicAbove id) (hc : f.chain? id = some c) (h : op c = ⟨d, e⟩)
    (hd : d.sets = c.sets.modify k g) (hk : (f.lineage id)[k]? = some j) :
    f.onChain id op = ⟨f.modifySet j g, e⟩ := by
  rw [onChain_of_chain? hc, h, hd, writeBack_modify (nodup_lineage hf) (chain?_eq_some_iff.1 hc) hk]

/-- An operation that changes the set itself and none of its ancestors changes no other set. -/
theorem onChain_of_own {s : FlagSet} {e : Option FlagError} (hf : f.Acyclic)
    (hc : f.chain? id = some c) (h : op c = ⟨{ c with own := s }, e⟩) :
    f.onChain id op = ⟨f.modifySet id fun _ => s, e⟩ := by
  obtain ⟨rest, hrest⟩ := lineage_eq_cons (lt_of_chain? hc)
  exact onChain_of_modify (k := 0) (hf.above id) hc h rfl (by rw [hrest]; rfl)

/-! ## Acyclic forests -/

theorem Acyclic.mono (hf : f.Acyclic) (h : ∀ i j, g.IsChild i j → f.IsChild i j) : g.Acyclic :=
  fun i hi => hf i (TransGen.mono h i i hi)

theorem AcyclicAbove.mono (hf : f.AcyclicAbove id) (h : ∀ i j, g.IsChild i j → f.IsChild i j) :
    g.AcyclicAbove id :=
  fun i hi hcycle => hf i (ReflTransGen.mono h id i hi) (TransGen.mono h i i hcycle)

theorem acyclic_onChain (hf : f.Acyclic) : (f.onChain id op).state.Acyclic := by
  refine hf.mono fun i j hij => ?_
  rwa [isChild_iff, parentAt?_onChain, ← isChild_iff] at hij

theorem acyclic_insert (hf : f.Acyclic) (s : FlagSet) : (f.insert s none).1.Acyclic := by
  refine hf.mono fun i j => ?_
  rintro ⟨n, hn, hp⟩
  rw [insert, List.getElem?_append] at hn
  split_ifs at hn with hi
  · exact ⟨n, hn, hp⟩
  · obtain rfl := List.mem_singleton.1 (List.mem_of_getElem? hn)
    cases hp

theorem isChild_link {parent : Nat} :
    (f.link id (some parent)).IsChild i j ↔
      i < f.nodes.length ∧ i = id ∧ j = parent ∨ i ≠ id ∧ f.IsChild i j := by
  unfold IsChild link
  rw [List.getElem?_modify]
  split_ifs with h
  · rw [← h]
    by_cases hi : id < f.nodes.length
    · simp [hi, eq_comm]
    · simp [hi]
  · simp [Ne.symm h]

/-- A new parent that is no descendant closes no cycle: a walk that uses the new step goes from a
descendant of the child to an ancestor of the parent. -/
theorem acyclic_link (hf : f.Acyclic) {parent : Nat} (h : id ∉ f.lineage parent) :
    (f.link id (some parent)).Acyclic := by
  by_cases hid : id < f.nodes.length
  · have hno : ¬ ReflTransGen f.IsChild parent id := fun hr => h ((mem_lineage_iff hf).2 ⟨hid, hr⟩)
    have key {i j : Nat} (hij : TransGen (f.link id (some parent)).IsChild i j) :
        TransGen f.IsChild i j ∨
          ReflTransGen f.IsChild i id ∧ ReflTransGen f.IsChild parent j := by
      induction hij with
      | single hstep =>
        obtain ⟨-, rfl, rfl⟩ | ⟨-, hold⟩ := isChild_link.1 hstep
        · exact .inr ⟨.refl, .refl⟩
        · exact .inl (.single hold)
      | tail _ hstep ih =>
        obtain ⟨-, rfl, rfl⟩ | ⟨-, hold⟩ := isChild_link.1 hstep
        · rcases ih with ih | ⟨-, ih⟩
          · exact .inr ⟨ih.to_reflTransGen, .refl⟩
          · exact absurd ih hno
        · rcases ih with ih | ⟨hfrom, ih⟩
          · exact .inl (ih.tail hold)
          · exact .inr ⟨hfrom, ih.tail hold⟩
    intro i hi
    rcases key hi with hi | ⟨hfrom, hto⟩
    · exact hf i hi
    · exact hno (hto.trans hfrom)
  · refine hf.mono fun i j hij => ?_
    obtain ⟨hi, rfl, -⟩ | ⟨-, hold⟩ := isChild_link.1 hij
    · exact absurd hi hid
    · exact hold

theorem acyclic_perform (hf : f.Acyclic) (call : Call) : (f.perform call).state.Acyclic := by
  cases call with
  | make name => exact acyclic_insert hf _
  | enableCompat id => exact hf.mono fun i j => isChild_modifySet.1
  | link id parent =>
    by_cases h : id ∈ f.lineage parent
    · simpa only [perform, if_pos h] using hf
    · simpa only [perform, if_neg h] using acyclic_link hf h
  | add id d =>
    obtain ⟨-, e⟩ | ⟨s, p, -, -, e⟩ | ⟨s, t, -, -, e⟩ := register_cases f id d <;>
      rw [perform, e]
    · exact hf
    · exact hf
    · exact hf.mono fun i j => isChild_modifySet.1
  | set id name value => exact acyclic_onChain hf
  | parse id o args => exact acyclic_onChain hf
  | reset id => exact acyclic_onChain hf

theorem acyclic_after (calls : List Call) : (after calls).Acyclic := by
  refine after_induct (fun i hi => ?_) fun f call hf => acyclic_perform hf call
  obtain ⟨j, ⟨n, hn, -⟩, -⟩ := TransGen.head'_iff.1 hi
  cases hn

end LayeredFlags.Forest
