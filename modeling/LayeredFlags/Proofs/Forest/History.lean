import LayeredFlags.FlagSet.Forest
import LayeredFlags.Proofs.Chain.Names
import LayeredFlags.Proofs.Resolution.Stages

/-!
# Histories of flag sets

Flag sets come about by calls, each of which may fail.  A property of single sets that every call
keeps holds of all sets after any history of calls.
-/

namespace LayeredFlags

/-- A call on the flag sets made so far, which are numbered. -/
inductive Call where
  /-- Makes an empty set. -/
  | make (name : String)
  /-- Turns on the compatibility mode of a set. -/
  | enableCompat (id : Nat)
  /-- Puts a set under a parent; the ancestors must not lead back to the set. -/
  | link (id parent : Nat)
  | add (id : Nat) (d : FlagDecl)
  | set (id : Nat) (name value : String)
  | parse (id : Nat) (o : ParseOptions) (args : List String)
  | reset (id : Nat)

namespace Forest

/-- The forest with a flag registered in a set, unless the set refuses it. -/
def register (f : Forest) (id : Nat) (d : FlagDecl) : Attempt Forest :=
  match f.nodes[id]? with
  | none => ⟨f, none⟩
  | some n =>
    match n.set.add d with
    | .ok s => ⟨f.modifySet id fun _ => s, none⟩
    | .error e => ⟨f, some e⟩

/-- The forest after a call; a parent that would lead back to its child is not taken. -/
def perform (f : Forest) : Call → Attempt Forest
  | .make name => ⟨(f.insert { name } none).1, none⟩
  | .enableCompat id => ⟨f.modifySet id fun s => { s with compat := true }, none⟩
  | .link id parent => ⟨if id ∈ f.lineage parent then f else f.link id (some parent), none⟩
  | .add id d => f.register id d
  | .set id name value => f.onChain id (·.set name value)
  | .parse id o args => f.onChain id (·.parse o args)
  | .reset id => f.onChain id (·.reset)

/-- The forest after a history of calls, those that fail included. -/
def after (calls : List Call) : Forest :=
  calls.foldl (fun f call => (f.perform call).state) {}

/-- What every call keeps, any calls keep. -/
theorem perform_induct {P : Forest → Prop} {f : Forest} (hf : P f)
    (hstep : ∀ f call, P f → P (f.perform call).state) (calls : List Call) :
    P (calls.foldl (fun f call => (f.perform call).state) f) := by
  induction calls generalizing f with
  | nil => exact hf
  | cons call rest ih => exact ih (hstep f call hf)

theorem after_induct {P : Forest → Prop} {calls : List Call} (hnil : P {})
    (hstep : ∀ f call, P f → P (f.perform call).state) : P (after calls) :=
  perform_induct hnil hstep calls

/-- A property of all sets of a forest. -/
def AllSets (P : FlagSet → Prop) (f : Forest) : Prop :=
  ∀ n ∈ f.nodes, P n.set

variable {P : FlagSet → Prop} {f : Forest} {c : Chain} {id : Nat}

/-! ## Changes to one set -/

theorem allSets_modifySet (h : f.AllSets P) {g : FlagSet → FlagSet}
    (hg : ∀ n, f.nodes[id]? = some n → P n.set → P (g n.set)) : (f.modifySet id g).AllSets P := by
  intro n hn
  obtain ⟨i, hi⟩ := List.mem_iff_getElem?.1 hn
  rw [modifySet, List.getElem?_modify] at hi
  split_ifs at hi with he
  · obtain ⟨m, hm, rfl⟩ := Option.map_eq_some_iff.1 hi
    exact hg m (he ▸ hm) (h m (List.mem_of_getElem? hm))
  · rw [id_map'] at hi
    exact h n (List.mem_of_getElem? hi)

theorem allSets_link (h : f.AllSets P) (parent : Option Nat) : (f.link id parent).AllSets P := by
  intro n hn
  obtain ⟨i, hi⟩ := List.mem_iff_getElem?.1 hn
  rw [link, List.getElem?_modify] at hi
  split_ifs at hi with he
  · obtain ⟨m, hm, rfl⟩ := Option.map_eq_some_iff.1 hi
    exact h m (List.mem_of_getElem? hm)
  · rw [id_map'] at hi
    exact h n (List.mem_of_getElem? hi)

theorem allSets_register (h : f.AllSets P) {d : FlagDecl}
    (hadd : ∀ s t, P s → s.add d = .ok t → P t) : (f.register id d).state.AllSets P := by
  unfold register
  cases hn : f.nodes[id]? with
  | none => exact h
  | some n =>
    simp only
    cases hs : n.set.add d with
    | error e => exact h
    | ok s =>
      have hP : P s := hadd n.set s (h n (List.mem_of_getElem? hn)) hs
      exact allSets_modifySet h fun _ _ _ => hP

theorem allSets_insert (h : f.AllSets P) {s : FlagSet} (hs : P s) (parent : Option Nat) :
    (f.insert s parent).1.AllSets P := by
  intro n hn
  rcases List.mem_append.1 hn with hn | hn
  · exact h n hn
  · obtain rfl := List.mem_singleton.1 hn
    exact hs

/-! ## Changes to a chain -/

theorem mem_nodes_of_chain? (h : f.chain? id = some c) {s : FlagSet} (hs : s ∈ c.sets) :
    ∃ n ∈ f.nodes, n.set = s := by
  unfold chain? at h
  split at h
  next => cases h
  next own ancestors hsets =>
    cases h
    have hs : s ∈ (f.lineage id).filterMap fun i => (f.nodes[i]?).map SetNode.set := hsets ▸ hs
    obtain ⟨i, -, hi⟩ := List.mem_filterMap.1 hs
    obtain ⟨n, hn, rfl⟩ := Option.map_eq_some_iff.1 hi
    exact ⟨n, List.mem_of_getElem? hn, rfl⟩

theorem allSets_chain? (h : f.AllSets P) (hc : f.chain? id = some c) : ∀ s ∈ c.sets, P s := by
  intro s hs
  obtain ⟨n, hn, rfl⟩ := mem_nodes_of_chain? hc hs
  exact h n hn

theorem allSets_writeBack (h : f.AllSets P) (ids : List Nat) {sets : List FlagSet}
    (hs : ∀ s ∈ sets, P s) : (f.writeBack ids sets).AllSets P := by
  induction ids generalizing f sets with
  | nil => exact h
  | cons id ids ih =>
    cases sets with
    | nil => exact h
    | cons s sets =>
      have hhead : (f.modifySet id fun _ => s).AllSets P :=
        allSets_modifySet h fun n _ _ => hs s (List.mem_cons_self ..)
      exact ih hhead fun t ht => hs t (List.mem_cons_of_mem _ ht)

theorem allSets_onChain (h : f.AllSets P) {op : Chain → Attempt Chain}
    (hop : ∀ c, (∀ s ∈ c.sets, P s) → ∀ s ∈ (op c).state.sets, P s) :
    (f.onChain id op).state.AllSets P := by
  unfold onChain
  cases hc : f.chain? id with
  | none => exact h
  | some c => exact allSets_writeBack h _ (hop c (allSets_chain? h hc))

end Forest

/-! ## Invariants -/

/-- A property of sets that every call keeps, for all sets that the call can reach. -/
structure SetInvariant (P : FlagSet → Prop) : Prop where
  make : ∀ name, P { name }
  enableCompat : ∀ s, P s → P { s with compat := true }
  add : ∀ s d t, P s → s.add d = .ok t → P t
  set : ∀ (c : Chain) name value, (∀ s ∈ c.sets, P s) → ∀ s ∈ (c.set name value).state.sets, P s
  parse : ∀ (c : Chain) o args, (∀ s ∈ c.sets, P s) → ∀ s ∈ (c.parse o args).state.sets, P s
  reset : ∀ c : Chain, (∀ s ∈ c.sets, P s) → ∀ s ∈ c.reset.state.sets, P s

namespace SetInvariant

variable {P : FlagSet → Prop} {f : Forest}

theorem perform (hP : SetInvariant P) (h : f.AllSets P) (call : Call) :
    (f.perform call).state.AllSets P := by
  cases call with
  | make name => exact Forest.allSets_insert h (hP.make name) none
  | enableCompat id => exact Forest.allSets_modifySet h fun n _ => hP.enableCompat n.set
  | link id parent =>
    by_cases hl : id ∈ f.lineage parent
    · simpa only [Forest.perform, if_pos hl] using h
    · simpa only [Forest.perform, if_neg hl] using Forest.allSets_link h (some parent)
  | add id d => exact Forest.allSets_register h fun s t => hP.add s d t
  | set id name value => exact Forest.allSets_onChain h fun c => hP.set c name value
  | parse id o args => exact Forest.allSets_onChain h fun c => hP.parse c o args
  | reset id => exact Forest.allSets_onChain h hP.reset

/-- An invariant holds of all sets after any history. -/
theorem after (hP : SetInvariant P) (calls : List Call) : (Forest.after calls).AllSets P :=
  Forest.after_induct (fun _ hn => nomatch hn) fun _ call h => hP.perform h call

end SetInvariant

/-! ## Names -/

theorem wellNamed_invariant : SetInvariant FlagSet.WellNamed where
  make _ := ⟨fun _ hn => absurd hn List.not_mem_nil, List.Pairwise.nil⟩
  enableCompat _ hs := ⟨hs.admissible, hs.apart⟩
  add _ _ _ hs h := FlagSet.wellNamed_of_add hs h
  set c name value := Chain.wellNamed_of_shape (Chain.shape_set c name value)
  parse c o args := Chain.wellNamed_of_shape (Chain.shape_parse o args c)
  reset c := Chain.wellNamed_of_shape (Chain.shape_reset c)

/-- After any history, every chain is well named. -/
theorem Chain.wellNamed_of_history {calls : List Call} {id : Nat} {c : Chain}
    (h : (Forest.after calls).chain? id = some c) : c.WellNamed :=
  Forest.allSets_chain? (wellNamed_invariant.after calls) h

/-! ## An example -/

namespace Chain

/-- The flags of a set, and those of the set that it is put under. -/
def sampleDecls : List FlagDecl × List FlagDecl :=
  ([{ names := { long := some "tag" }, value := .ofDefaults .string false [] },
    { names := { short := some 'n' }, value := .ofDefault .uint64 (.int 0) }],
   [{ names := { short := some 'v', long := some "verbose" }, value := .ofBool false },
    { names := { short := some 'q' }, value := .ofBool false }])

/-- Two sets are made and linked, and get their flags. -/
def sampleHistory : List Call :=
  [.make "app", .make "base", .link 0 1] ++ sampleDecls.1.map (.add 0) ++ sampleDecls.2.map (.add 1)

/-- The chain of the first set. -/
def grownChain : Chain :=
  { own := { name := "app", flags := sampleDecls.1.map .ofDecl }
    ancestors := [{ name := "base", flags := sampleDecls.2.map .ofDecl }] }

theorem chain?_sampleHistory : (Forest.after sampleHistory).chain? 0 = some grownChain := rfl

end Chain

end LayeredFlags
