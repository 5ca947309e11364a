import LayeredFlags.Proofs.Chain.Evolution
import LayeredFlags.Proofs.Forest.Lineage

/-!
# Steps of flag sets

What a call can do to any one set is a short list of steps: its flags are assigned at most, or it is
the set that the call is about.  No step loses where the flags of a set come from, leaves arguments
over in a set that is not parsed, or takes back a parse except by a reset.
-/

namespace LayeredFlags

/-- The call parses arguments for the set with a number. -/
def Call.Parses (i : Nat) : Call → Prop
  | .parse j _ _ => j = i
  | _ => False

/-- A flag that the call registers has a built-in value that nothing was assigned to yet. -/
def Call.RegistersFresh : Call → Prop
  | .add _ d => d.value.Fresh
  | _ => True

namespace Forest

variable {f : Forest} {c : Chain} {s t : FlagSet} {i id : Nat}

/-! ## Steps -/

/-- The declarations that a call registers in a set: one if the set exists and takes it. -/
def accepted (f : Forest) (i : Nat) : Call → List FlagDecl
  | .add j d =>
    if j = i then
      match (f.setAt? i).map (·.add d) with
      | some (Except.ok _) => [d]
      | _ => []
    else []
  | _ => []

/-- What a call can do to the set with a number. -/
inductive Step (f : Forest) (i : Nat) (s : FlagSet) (call : Call) : FlagSet → Prop
  /-- Flags of the set are assigned at most; no flag is registered in it, and no parse of it
  succeeds. -/
  | evolve {t : FlagSet} (evolves : s.Evolves t) (none_accepted : f.accepted i call = [])
    (not_parsed : call.Parses i → (f.perform call).failure ≠ none) :
    Step f i s call t
  | enableCompat (call_eq : call = .enableCompat i) : Step f i s call { s with compat := true }
  | add {d : FlagDecl} {t : FlagSet} (call_eq : call = .add i d) (added : s.add d = .ok t) :
    Step f i s call t
  | parse {o : ParseOptions} {args leftovers : List String} {t : FlagSet}
    (call_eq : call = .parse i o args) (fresh : s.parsed = false) (evolves : s.Evolves t) :
    Step f i s call { t with parsed := true, leftovers }
  | reset (call_eq : call = .reset i) (failure : (f.perform call).failure = s.reset.2) :
    Step f i s call s.reset.1

/-- An operation on a chain makes of every set what it makes of it there, and the sets outside the
chain are left alone. -/
theorem exists_setAt?_onChain {op : Chain → Attempt Chain} (hf : f.Acyclic)
    (hc : f.chain? id = some c)
    (hancestors : List.Forall₂ FlagSet.Evolves c.ancestors (op c).state.ancestors)
    (hs : f.setAt? i = some s) :
    ∃ t, (f.onChain id op).state.setAt? i = some t ∧
      (i = id → s = c.own ∧ t = (op c).state.own) ∧ (i ≠ id → s.Evolves t) := by
  have hlen : (op c).state.sets.length = c.sets.length :=
    congrArg (· + 1) hancestors.length_eq.symm
  obtain ⟨rest, hrest, hnot⟩ := lineage_eq_cons_of_acyclic hf (lt_of_chain? hc)
  by_cases hmem : i ∈ f.lineage id
  · obtain ⟨k, hk⟩ := List.mem_iff_getElem?.1 hmem
    obtain ⟨hbefore, hafter⟩ := setAt?_onChain hf hc hlen hk
    cases k with
    | zero =>
      have hi : id = i := by simpa [hrest] using hk
      refine ⟨_, hafter, fun _ => ⟨?_, rfl⟩, fun hne => absurd hi.symm hne⟩
      exact Option.some.inj (hs.symm.trans hbefore)
    | succ k =>
      have hne : i ≠ id := by
        rintro rfl
        rw [hrest, List.getElem?_cons_succ] at hk
        exact hnot (List.mem_of_getElem? hk)
      rw [hs] at hbefore
      obtain ⟨t, ht, hst⟩ := exists_getElem?_of_forall₂ hancestors hbefore.symm
      exact ⟨t, hafter.trans ht, fun hi => absurd hi hne, fun _ => hst⟩
  · have hne : i ≠ id := by
      rintro rfl
      exact hmem (hrest ▸ List.mem_cons_self ..)
    exact ⟨s, (setAt?_onChain_of_not_mem hmem).trans hs, fun hi => absurd hi hne,
      fun _ => .refl s⟩

/-- An operation on a chain is a step of every set if it is one of the chain's own set and does no
more to the ancestors than assign their flags. -/
theorem exists_step_onChain {op : Chain → Attempt Chain} {call : Call} (hf : f.Acyclic)
    (hs : f.setAt? i = some s) (hperform : f.perform call = f.onChain id op)
    (hadd : f.accepted i call = []) (hid : call.Parses i → id = i)
    (hancestors : ∀ c, f.chain? id = some c →
      List.Forall₂ FlagSet.Evolves c.ancestors (op c).state.ancestors)
    (hown : ∀ c, f.chain? id = some c → i = id → Step f i c.own call (op c).state.own) :
    ∃ t, (f.perform call).state.setAt? i = some t ∧ Step f i s call t := by
  rw [hperform]
  cases hc : f.chain? id with
  | none =>
    refine ⟨s, by rw [onChain_of_none hc, hs], .evolve (.refl s) hadd fun h => ?_⟩
    -- a set that exists has a chain, so this is no parse of it
    obtain ⟨c, hc'⟩ := exists_chain? (lt_of_setAt? hs)
    rw [hid h, hc'] at hc
    cases hc
  | some c =>
    obtain ⟨t, ht, hself, hother⟩ := exists_setAt?_onChain hf hc (hancestors c hc) hs
    refine ⟨t, ht, ?_⟩
    by_cases hi : i = id
    · obtain ⟨rfl, rfl⟩ := hself hi
      exact hown c hc hi
    · exact .evolve (hother hi) hadd fun h => absurd (hid h).symm hi

/-- Every set makes one of the steps in a call. -/
theorem exists_step (hf : f.Acyclic) (hs : f.setAt? i = some s) (call : Call) :
    ∃ t, (f.perform call).state.setAt? i = some t ∧ Step f i s call t := by
  have hlt := lt_of_setAt? hs
  cases call with
  | make name =>
    refine ⟨s, ?_, .evolve (.refl s) rfl False.elim⟩
    rw [perform, setAt?_insert, if_neg (by omega), hs]
  | enableCompat id =>
    rw [perform, setAt?_modifySet, hs]
    split_ifs with hi
    · exact ⟨_, rfl, .enableCompat (by rw [hi])⟩
    · exact ⟨s, rfl, .evolve (.refl s) rfl False.elim⟩
  | link id parent =>
    refine ⟨s, ?_, .evolve (.refl s) rfl False.elim⟩
    rw [perform]
    split_ifs
    · exact hs
    · rw [setAt?_link, hs]
  | add id d =>
    obtain ⟨hnone, e⟩ | ⟨s', p, hs', hp, e⟩ | ⟨s', t, hs', ht, e⟩ := register_cases f id d
    · have hi : id ≠ i := by
        rintro rfl
        rw [hs] at hnone
        cases hnone
      exact ⟨s, by rw [perform, e, hs], .evolve (.refl s) (if_neg hi) False.elim⟩
    · refine ⟨s, by rw [perform, e, hs], .evolve (.refl s) ?_ False.elim⟩
      simp only [accepted]
      split_ifs with hi
      · subst hi
        rw [hs', Option.map_some, hp]
      · rfl
    · rw [perform, e, setAt?_modifySet, hs]
      split_ifs with hi
      · subst hi
        obtain rfl := Option.some.inj (hs.symm.trans hs')
        exact ⟨t, rfl, .add rfl ht⟩
      · exact ⟨s, rfl, .evolve (.refl s) (if_neg hi) False.elim⟩
  | set id name value =>
    have hevolves (c : Chain) := List.forall₂_cons.1 (Chain.evolves_set c name value)
    refine exists_step_onChain hf hs rfl rfl False.elim (fun c _ => (hevolves c).2) fun c _ _ => ?_
    exact .evolve (hevolves c).1 rfl False.elim
  | parse id o args =>
    refine exists_step_onChain hf hs rfl rfl (fun h => h) (fun c _ => ?_) fun c hc hi => ?_
    · obtain ⟨d, hd, ⟨e, h⟩ | ⟨-, leftovers, h⟩⟩ := Chain.evolves_parse o args c <;> rw [h]
      · exact (List.forall₂_cons.1 hd).2
      · exact (List.forall₂_cons.1 hd).2
    · obtain ⟨d, hd, ⟨e, h⟩ | ⟨hfresh, leftovers, h⟩⟩ := Chain.evolves_parse o args c
      · rw [h]
        refine .evolve (List.forall₂_cons.1 hd).1 rfl fun _ => ?_
        rw [perform, onChain_of_chain? hc, h]
        exact Option.some_ne_none e
      · rw [h]
        exact .parse (by rw [hi]) hfresh (List.forall₂_cons.1 hd).1
  | reset id =>
    refine exists_step_onChain hf hs rfl rfl False.elim (fun c _ => ?_) fun c hc hi => ?_
    · exact (List.forall₂_cons.1 (Chain.Evolves.refl c)).2
    · refine .reset (by rw [hi]) ?_
      rw [perform, onChain_of_chain? hc]
      rfl

theorem accepted_of_none (hs : f.setAt? i = none) (call : Call) : f.accepted i call = [] := by
  cases call with
  | add j d =>
    simp only [accepted, hs, Option.map_none]
    split_ifs <;> rfl
  | _ => rfl

/-- A set that a call makes is empty. -/
theorem setAt?_perform_of_none (hs : f.setAt? i = none) {call : Call}
    (ht : (f.perform call).state.setAt? i = some t) : ∃ name, t = { name } := by
  have hchain {id : Nat} {op : Chain → Attempt Chain} :
      ¬ (f.onChain id op).state.setAt? i = some t := by
    rw [setAt?_onChain_of_not_mem, hs]
    · exact Option.some_ne_none t ∘ Eq.symm
    · intro hmem
      obtain ⟨s, hlt⟩ := setAt?_of_lt (lt_of_mem_lineageIn hmem)
      rw [hs] at hlt
      cases hlt
  have hmodify {id : Nat} {g : FlagSet → FlagSet} : ¬ (f.modifySet id g).setAt? i = some t := by
    rw [setAt?_modifySet, hs]
    simp
  cases call with
  | make name =>
    rw [perform, setAt?_insert] at ht
    split_ifs at ht
    · exact ⟨name, (Option.some.inj ht).symm⟩
    · rw [hs] at ht
      cases ht
  | enableCompat id => exact absurd ht hmodify
  | link id parent =>
    rw [perform] at ht
    split_ifs at ht
    · rw [hs] at ht
      cases ht
    · rw [setAt?_link, hs] at ht
      cases ht
  | add id d =>
    obtain ⟨-, e⟩ | ⟨s, p, -, -, e⟩ | ⟨s, t', -, -, e⟩ := register_cases f id d <;>
      rw [perform, e] at ht
    · rw [hs] at ht
      cases ht
    · rw [hs] at ht
      cases ht
    · exact absurd ht hmodify
  | set id name value => exact absurd ht hchain
  | parse id o args => exact absurd ht hchain
  | reset id => exact absurd ht hchain

/-- A set that is there after a call was made by it, or made a step. -/
theorem perform_cases (hf : f.Acyclic) {call : Call}
    (ht : (f.perform call).state.setAt? i = some t) :
    (f.setAt? i = none ∧ ∃ name, t = { name }) ∨
      ∃ s, f.setAt? i = some s ∧ Step f i s call t := by
  cases hs : f.setAt? i with
  | none => exact .inl ⟨rfl, setAt?_perform_of_none hs ht⟩
  | some s =>
    obtain ⟨t', ht', hstep⟩ := exists_step hf hs call
    obtain rfl := Option.some.inj (ht.symm.trans ht')
    exact .inr ⟨s, rfl, hstep⟩

/-! ## What every step keeps -/

namespace Step

variable {call : Call}

/-- The flags of a set come from the declarations that the set has taken. -/
theorem tracks (h : Step f i s call t) (hs : f.setAt? i = some s) {ds : List FlagDecl}
    (htracks : s.Tracks ds) (hcall : call.RegistersFresh) : t.Tracks (ds ++ f.accepted i call) := by
  have none_more (h : f.accepted i call = []) : ds ++ f.accepted i call = ds := by
    rw [h, List.append_nil]
  cases h with
  | evolve hevolves hadd _ =>
    rw [none_more hadd]
    exact htracks.evolves hevolves
  | enableCompat h =>
    rw [none_more (h ▸ rfl)]
    exact htracks
  | add h ht =>
    subst h
    rw [accepted, if_pos rfl, hs, Option.map_some, ht]
    exact htracks.add hcall ht
  | parse h _ hevolves =>
    rw [none_more (h ▸ rfl)]
    have ht := htracks.evolves hevolves
    exact ht
  | reset h _ =>
    rw [none_more (h ▸ rfl)]
    exact htracks.reset

theorem leftovers_eq_nil (h : Step f i s call t) (hs : s.parsed = false → s.leftovers = []) :
    t.parsed = false → t.leftovers = [] := by
  cases h with
  | evolve hevolves _ _ =>
    rw [hevolves.rest]
    exact hs
  | enableCompat _ => exact hs
  | add _ ht =>
    obtain ⟨-, -, rfl⟩ := FlagSet.of_add ht
    exact hs
  | parse _ _ _ => exact fun h => nomatch h
  | reset _ _ =>
    unfold FlagSet.reset
    obtain ⟨fs, _ | e⟩ := FlagSet.resetFlags s.flags
    · exact fun _ => rfl
    · exact hs

/-- A parsed set stays parsed unless it is reset. -/
theorem parsed (h : Step f i s call t) (hs : s.parsed = true)
    (hreset : ¬ (call = .reset i ∧ (f.perform call).failure = none)) : t.parsed = true := by
  cases h with
  | evolve hevolves _ _ =>
    rw [hevolves.rest]
    exact hs
  | enableCompat _ => exact hs
  | add _ ht =>
    obtain ⟨-, -, rfl⟩ := FlagSet.of_add ht
    exact hs
  | parse _ _ _ => rfl
  | reset hcall hfailure =>
    rw [hfailure] at hreset
    revert hreset
    unfold FlagSet.reset
    obtain ⟨fs, _ | e⟩ := FlagSet.resetFlags s.flags
    · exact fun hreset => absurd ⟨hcall, rfl⟩ hreset
    · exact fun _ => hs

/-- Behind a parse of it that succeeds a set is parsed, and it was not so before. -/
theorem of_parse (h : Step f i s call t) (hcall : call.Parses i)
    (hok : (f.perform call).failure = none) : s.parsed = false ∧ t.parsed = true := by
  cases h with
  | evolve _ _ hparse => exact absurd hok (hparse hcall)
  | enableCompat h => subst h; cases hcall
  | add h _ => subst h; cases hcall
  | parse _ hfresh _ => exact ⟨hfresh, rfl⟩
  | reset h _ => subst h; cases hcall

end Step

end Forest

end LayeredFlags
