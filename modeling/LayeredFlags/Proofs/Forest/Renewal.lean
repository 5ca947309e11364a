import LayeredFlags.Proofs.Forest.LifeCycle

/-!
# Renewal of flag sets

A set of built-in values that was built from some declarations, and then used in any way, is by a
reset exactly the set that was built: its values with all that they keep, no flag set, nothing left
over, not parsed.  A parse of it is that of a set newly built under the same ancestors.
-/

namespace LayeredFlags

/-- The set that is made with a name and a mode and takes some declarations. -/
def FlagSet.ofDecls (name : String) (compat : Bool) (ds : List FlagDecl) :
    Except FlagError FlagSet :=
  ds.foldlM FlagSet.add { name, compat }

/-- The call is one by which a set is built: it registers a flag in it or turns on its mode. -/
def Call.Builds (i : Nat) : Call → Prop
  | .add j _ => j = i
  | .enableCompat j => j = i
  | _ => False

/-! ## Built sets -/

namespace FlagSet

variable {ds : List FlagDecl} {s t u : FlagSet}

theorem eq_of_foldlM_add (h : ds.foldlM add s = .ok t) :
    t = { s with flags := s.flags ++ ds.map .ofDecl } := by
  induction ds generalizing s with
  | nil =>
    cases h
    rw [List.map_nil, List.append_nil]
  | cons d ds ih =>
    rw [List.foldlM_cons] at h
    cases hd : s.add d with
    | error e =>
      rw [hd] at h
      cases h
    | ok s' =>
      rw [hd] at h
      obtain ⟨-, -, rfl⟩ := of_add hd
      rw [ih h, List.map_cons]
      simp

theorem eq_of_ofDecls {name : String} {compat : Bool} (h : ofDecls name compat ds = .ok s) :
    s = { name, compat, flags := ds.map .ofDecl } :=
  eq_of_foldlM_add h

theorem tracks_of_ofDecls {name : String} {compat : Bool} (h : ofDecls name compat ds = .ok s)
    (hfresh : ∀ d ∈ ds, d.value.Fresh) : s.Tracks ds := by
  rw [eq_of_ofDecls h]
  exact forall₂_tracks_ofDecl hfresh

/-- The set comes from declarations, with the name and the mode of another one. -/
structure UsedFrom (ds : List FlagDecl) (s t : FlagSet) : Prop where
  tracks : t.Tracks ds
  name_eq : t.name = s.name
  compat_eq : t.compat = s.compat

theorem UsedFrom.evolves (h : UsedFrom ds s t) (he : t.Evolves u) : UsedFrom ds s u := by
  refine ⟨h.tracks.evolves he, ?_, ?_⟩
  · rw [he.rest]
    exact h.name_eq
  · rw [he.rest]
    exact h.compat_eq

theorem UsedFrom.reset_eq (h : UsedFrom ds s t)
    (hs : s = { name := s.name, compat := s.compat, flags := ds.map .ofDecl }) :
    t.reset = (s, none) := by
  rw [h.tracks.reset_eq, h.name_eq, h.compat_eq]
  exact congrArg (·, none) hs.symm

end FlagSet

namespace Forest

variable {f g : Forest} {i j : Nat} {ds : List FlagDecl} {s t u : FlagSet} {calls : List Call}

/-! ## Use -/

theorem Step.usedFrom {call : Call} (h : Step f i t call u) (hcall : ¬ call.Builds i)
    (ht : FlagSet.UsedFrom ds s t) : FlagSet.UsedFrom ds s u := by
  cases h with
  | evolve hevolves _ _ => exact ht.evolves hevolves
  | enableCompat h =>
    subst h
    exact absurd rfl hcall
  | add h _ =>
    subst h
    exact absurd rfl hcall
  | parse _ _ hevolves =>
    have hu := ht.evolves hevolves
    exact ⟨hu.tracks, hu.name_eq, hu.compat_eq⟩
  | reset _ _ =>
    have hu := ht.tracks.reset
    rw [ht.tracks.reset_eq] at hu ⊢
    exact ⟨hu, ht.name_eq, ht.compat_eq⟩

theorem acyclic_run (hf : f.Acyclic) (calls : List Call) : (f.run calls).Acyclic :=
  perform_induct (P := Acyclic) hf (fun _ call h => acyclic_perform h call) calls

/-- Whatever is done, as long as it does not go on building the set, the set comes from its
declarations. -/
theorem exists_usedFrom (hf : f.Acyclic) (ht : f.setAt? i = some t)
    (hused : FlagSet.UsedFrom ds s t) (hcalls : ∀ call ∈ calls, ¬ call.Builds i) :
    ∃ u, (f.run calls).setAt? i = some u ∧ FlagSet.UsedFrom ds s u := by
  induction calls generalizing f t with
  | nil => exact ⟨t, ht, hused⟩
  | cons call rest ih =>
    rw [List.forall_mem_cons] at hcalls
    obtain ⟨u, hu, hstep⟩ := exists_step hf ht call
    exact ih (acyclic_perform hf call) hu (hstep.usedFrom hcalls.1 hused) hcalls.2

/-! ## Renewal -/

theorem perform_parse_of_chain? (hf : f.Acyclic) (hg : g.Acyclic) {c : Chain}
    (hi : f.chain? i = some c) (hj : g.chain? j = some c) (o : ParseOptions) (args : List String) :
    (f.perform (.parse i o args)).failure = (g.perform (.parse j o args)).failure ∧
      (f.perform (.parse i o args)).state.chain? i =
        (g.perform (.parse j o args)).state.chain? j := by
  have hlen : (c.parse o args).state.sets.length = c.sets.length := by
    have := congrArg List.length (Chain.shape_parse o args c)
    rwa [Chain.shape, Chain.shape, List.length_map, List.length_map] at this
  constructor
  · rw [perform, perform, onChain_of_chain? hi, onChain_of_chain? hj]
  · rw [perform, perform, chain?_onChain hf hi hlen, chain?_onChain hg hj hlen]

/-- A reset makes of a set in a forest the set that was built from declarations. -/
structure Renews (f : Forest) (i : Nat) (ds : List FlagDecl) (s : FlagSet) : Prop where
  /-- The reset succeeds, and all other sets stay as they are. -/
  reset_eq : f.perform (.reset i) = ⟨f.modifySet i fun _ => s, none⟩
  unset : ∀ flag ∈ s.flags, flag.isSet = false ∧ flag.origin = none
  unused : s.parsed = false ∧ s.leftovers = []
  /-- A parse behind the reset gives what it gives on a set that is newly built and has ancestors in
  the same state. -/
  parse_eq : ∀ (c : Chain) (g : Forest) (j : Nat) (t : FlagSet), g.Acyclic →
    (f.perform (.reset i)).state.chain? i = some c →
    FlagSet.ofDecls s.name s.compat ds = .ok t → g.chain? j = some { c with own := t } →
    ∀ o args, let renewed := (f.perform (.reset i)).state.perform (.parse i o args)
      renewed.failure = (g.perform (.parse j o args)).failure ∧
        renewed.state.chain? i = (g.perform (.parse j o args)).state.chain? j

/-- A set of built-in values that was built from declarations is renewed by a reset after any
calls, successful or not, that do not go on building it. -/
theorem renews_run (hf : f.Acyclic) (hs : f.setAt? i = some s)
    (hbuilt : FlagSet.ofDecls s.name s.compat ds = .ok s) (hfresh : ∀ d ∈ ds, d.value.Fresh)
    (hcalls : ∀ call ∈ calls, ¬ call.Builds i) : (f.run calls).Renews i ds s := by
  have hs_eq := FlagSet.eq_of_ofDecls hbuilt
  have hacyclic := acyclic_run hf calls
  obtain ⟨u, hu, hused⟩ :=
    exists_usedFrom hf hs ⟨FlagSet.tracks_of_ofDecls hbuilt hfresh, rfl, rfl⟩ hcalls
  obtain ⟨c, hc⟩ := exists_chain? (lt_of_setAt? hu)
  obtain rfl : u = c.own := Option.some.inj (hu.symm.trans (setAt?_of_chain? hc))
  have hown : c.reset = ⟨{ c with own := s }, none⟩ := by
    rw [Chain.reset, hused.reset_eq hs_eq]
  have hreset : (f.run calls).perform (.reset i) =
      ⟨(f.run calls).modifySet i fun _ => s, none⟩ := onChain_of_own hacyclic hc hown
  refine ⟨hreset, ?_, ?_, ?_⟩
  · rw [hs_eq]
    intro flag hflag
    obtain ⟨d, -, rfl⟩ := List.mem_map.1 hflag
    exact ⟨rfl, rfl⟩
  · rw [hs_eq]
    exact ⟨rfl, rfl⟩
  · intro c g j t hg hc ht hj o args
    have hown : some s = some c.own := by
      rw [← setAt?_of_chain? hc, hreset, setAt?_modifySet, if_pos rfl, hu]
      rfl
    obtain rfl : s = t := Except.ok.inj (hbuilt.symm.trans ht)
    obtain rfl : s = c.own := Option.some.inj hown
    exact perform_parse_of_chain? (acyclic_perform hacyclic _) hg hc hj o args

/-- Parses and direct assignments, some of which fail. -/
def sampleUse : List Call :=
  [.parse 0 {} ["--tag=a", "-n", "x"], .set 0 "tag" "b", .parse 0 {} ["-v", "rest"],
    .set 0 "n" "7", .set 0 "n" "many", .parse 0 {} []]

theorem renews_run_sample :
    let f := after Chain.sampleHistory
    let s := Chain.grownChain.own
    f.Acyclic ∧ f.setAt? 0 = some s ∧
      FlagSet.ofDecls s.name s.compat Chain.sampleDecls.1 = .ok s ∧
      (∀ d ∈ Chain.sampleDecls.1, d.value.Fresh) ∧ (∀ call ∈ sampleUse, ¬ call.Builds 0) ∧
      ((f.run sampleUse).setAt? 0).map (fun s => (s.parsed, s.leftovers, s.flags.map Flag.text)) =
        some (true, ["rest"], ["[a, b]", "7"]) ∧
      (f.run sampleUse).Renews 0 Chain.sampleDecls.1 s := by
  intro f s
  have hfresh : ∀ d ∈ Chain.sampleDecls.1, d.value.Fresh := by
    simp [Chain.sampleDecls, Value.fresh_ofDefault, Value.fresh_ofDefaults]
  have hcalls : ∀ call ∈ sampleUse, ¬ call.Builds 0 := by simp [sampleUse, Call.Builds]
  refine ⟨acyclic_after _, rfl, rfl, hfresh, hcalls, by decide +kernel, ?_⟩
  exact renews_run (acyclic_after _) rfl rfl hfresh hcalls

end Forest

end LayeredFlags
