import LayeredFlags.Proofs.Flag.Pristine
import LayeredFlags.Proofs.Forest.LifeCycle

/-!
# Resetting a set

A reset goes through the flags of a set in the order of registration and stops at the first whose
value refuses.  A built-in value never does; a value of the user's own kind may, by its own way
back or, if its kind has none, by refusing the default rendering.
-/

namespace LayeredFlags

/-! ## Values -/

namespace Value

variable {default : String} {v w : Value} {problem : ValueProblem}

/-- A value comes back to its initial state; `default` is what its flag falls back on. -/
inductive Restores (default : String) : Value → Value → Prop
  | builtIn {v : Value} (h : v.IsBuiltIn) : Restores default v v.pristine
  /-- The kind has its own way back. -/
  | own {rules : CustomRules} {restore : String → Except String String} {state state' : String}
      (able : rules.restore = some restore) (h : restore state = .ok state') :
      Restores default (.custom rules state) (.custom rules state')
  /-- The kind has none, and the default rendering is set again. -/
  | again {rules : CustomRules} {state state' : String} (unable : rules.restore = none)
      (h : rules.assign default state = .ok state') :
      Restores default (.custom rules state) (.custom rules state')

/-- A value refuses to come back to its initial state. -/
inductive RefusesReset (default : String) : Value → ValueProblem → Prop
  | own {rules : CustomRules} {restore : String → Except String String} {state reason : String}
      (able : rules.restore = some restore) (h : restore state = .error reason) :
      RefusesReset default (.custom rules state) (.custom reason)
  | again {rules : CustomRules} {state reason : String} (unable : rules.restore = none)
      (h : rules.assign default state = .error reason) :
      RefusesReset default (.custom rules state) (.custom reason)

/-- Every value comes back, or refuses to. -/
theorem restores_or_refuses (default : String) (v : Value) :
    (∃ w, v.restore?.getD (v.assign default) = .ok w ∧ Restores default v w) ∨
      ∃ problem, v.restore?.getD (v.assign default) = .error problem ∧
        RefusesReset default v problem := by
  by_cases hv : v.IsBuiltIn
  · exact .inl ⟨v.pristine, by rw [restore?_of_isBuiltIn hv, Option.getD_some], .builtIn hv⟩
  · obtain ⟨rules, state, rfl⟩ : ∃ rules state, v = .custom rules state := by
      cases v with
      | custom rules state => exact ⟨rules, state, rfl⟩
      | _ => exact absurd trivial hv
    simp only [restore?, assign]
    cases hable : rules.restore with
    | some restore =>
      cases h : restore state with
      | ok state' => exact .inl ⟨_, by simp [h], .own hable h⟩
      | error reason => exact .inr ⟨_, by simp [h], .own hable h⟩
    | none =>
      cases h : rules.assign default state with
      | ok state' => exact .inl ⟨_, by simp, .again hable h⟩
      | error reason => exact .inr ⟨_, by simp, .again hable h⟩

theorem Restores.not_refuses (h : Restores default v w) : ¬ RefusesReset default v problem := by
  intro hrefuses
  cases h with
  | builtIn h => cases hrefuses <;> exact h
  | own able h =>
    cases hrefuses with
    | own able' h' =>
      obtain rfl := Option.some.inj (able.symm.trans able')
      cases h.symm.trans h'
    | again unable _ => cases able.symm.trans unable
  | again unable h =>
    cases hrefuses with
    | own able _ => cases able.symm.trans unable
    | again _ h' => cases h.symm.trans h'

end Value

/-! ## Flags -/

namespace Flag

variable {f g : Flag} {problem : ValueProblem}

/-- The value of a flag refuses to be reset. -/
def RefusesReset (f : Flag) (problem : ValueProblem) : Prop :=
  f.value.RefusesReset f.default problem

/-- A flag is unset and without origin, with its value restored; nothing else of it changes. -/
def Restored (f g : Flag) : Prop :=
  ∃ v, f.value.Restores f.default v ∧ g = { f with value := v, isSet := false, origin := none }

theorem Restored.not_refuses (h : f.Restored g) : ¬ f.RefusesReset problem := by
  obtain ⟨v, hv, -⟩ := h
  exact hv.not_refuses

theorem reset_cases (f : Flag) :
    (∃ g, f.reset = .ok g ∧ f.Restored g) ∨
      ∃ problem, f.reset = .error (.valueRejected f.display f.default problem) ∧
        f.RefusesReset problem := by
  unfold reset
  obtain ⟨v, hv, hrestores⟩ | ⟨problem, hp, hrefuses⟩ := f.value.restores_or_refuses f.default
  · exact .inl ⟨_, by rw [hv], v, hrestores, rfl⟩
  · exact .inr ⟨problem, by rw [hp], hrefuses⟩

end Flag

/-! ## Sets -/

namespace FlagSet

/-- Flags are reset up to the first that refuses. -/
theorem resetFlags_cases (fs : List Flag) :
    (∃ restored, List.Forall₂ Flag.Restored fs restored ∧ resetFlags fs = (restored, none)) ∨
      ∃ before k later restored problem, fs = before ++ k :: later ∧
        List.Forall₂ Flag.Restored before restored ∧ k.RefusesReset problem ∧
        resetFlags fs =
          (restored ++ k :: later, some (.valueRejected k.display k.default problem)) := by
  induction fs with
  | nil => exact .inl ⟨[], .nil, rfl⟩
  | cons f fs ih =>
    obtain ⟨g, hg, hfg⟩ | ⟨problem, hf, hrefuses⟩ := f.reset_cases
    · obtain ⟨gs, hgs, e⟩ | ⟨before, k, later, gs, problem, rfl, hgs, hk, e⟩ := ih
      · exact .inl ⟨g :: gs, .cons hfg hgs, by simp only [resetFlags, hg, e]⟩
      · refine .inr ⟨f :: before, k, later, g :: gs, problem, rfl, .cons hfg hgs, hk, ?_⟩
        simp only [resetFlags, hg, e, List.cons_append]
    · exact .inr ⟨[], f, fs, [], problem, rfl, .nil, hrefuses, by simp only [resetFlags, hf]; rfl⟩

theorem reset_cases (s : FlagSet) :
    (∃ flags, List.Forall₂ Flag.Restored s.flags flags ∧
      s.reset = ({ s with flags, parsed := false, leftovers := [] }, none)) ∨
      ∃ before k later flags problem, s.flags = before ++ k :: later ∧
        List.Forall₂ Flag.Restored before flags ∧ k.RefusesReset problem ∧
        s.reset = ({ s with flags := flags ++ k :: later },
          some (.valueRejected k.display k.default problem)) := by
  unfold reset
  obtain ⟨flags, hflags, e⟩ | ⟨before, k, later, flags, problem, hsplit, hflags, hk, e⟩ :=
    resetFlags_cases s.flags
  · exact .inl ⟨flags, hflags, by rw [e]⟩
  · exact .inr ⟨before, k, later, flags, problem, hsplit, hflags, hk, by rw [e]⟩

theorem not_refuses_of_restored {before restored : List Flag}
    (h : List.Forall₂ Flag.Restored before restored) :
    ∀ g ∈ before, ∀ problem, ¬ g.RefusesReset problem := by
  induction h with
  | nil => exact fun g hg => absurd hg List.not_mem_nil
  | cons hf _ ih =>
    intro g hg problem
    rcases List.mem_cons.1 hg with rfl | hg
    · exact hf.not_refuses
    · exact ih g hg problem

end FlagSet

/-! ## Forests -/

namespace Forest

variable {f : Forest} {i : Nat} {s : FlagSet}

/-- How a reset of a set ends. -/
inductive ResetOutcome (f : Forest) (i : Nat) (s : FlagSet) : Attempt Forest → Prop
  /-- No flag of the set refuses.  All are restored, and the set is not parsed and has no leftover
  arguments. -/
  | restored {flags : List Flag} {f' : Forest}
      (willing : ∀ g ∈ s.flags, ∀ problem, ¬ g.RefusesReset problem)
      (all_restored : List.Forall₂ Flag.Restored s.flags flags)
      (own : f'.setAt? i = some { s with flags, parsed := false, leftovers := [] })
      (others : ∀ j ≠ i, f'.nodes[j]? = f.nodes[j]?) :
      ResetOutcome f i s ⟨f', none⟩
  /-- The flag `k` is the first that refuses.  The flags before it are restored, and all else stays
  as it was, so that a parsed set cannot be parsed. -/
  | stopped {before later flags : List Flag} {k : Flag} {problem : ValueProblem} {f' : Forest}
      (split : s.flags = before ++ k :: later) (refuses : k.RefusesReset problem)
      (first : ∀ g ∈ before, ∀ problem, ¬ g.RefusesReset problem)
      (before_restored : List.Forall₂ Flag.Restored before flags)
      (own : f'.setAt? i = some { s with flags := flags ++ k :: later })
      (others : ∀ j ≠ i, f'.nodes[j]? = f.nodes[j]?)
      (parse : s.parsed = true → ∀ o args,
        f'.perform (.parse i o args) = ⟨f', some (.alreadyParsed s.name)⟩) :
      ResetOutcome f i s ⟨f', some (.valueRejected k.display k.default problem)⟩

theorem getElem?_modifySet_of_ne {j : Nat} (h : j ≠ i) (g : FlagSet → FlagSet) :
    (f.modifySet i g).nodes[j]? = f.nodes[j]? :=
  List.getElem?_modify_ne _ _ h.symm

theorem perform_reset (hf : f.Acyclic) (hs : f.setAt? i = some s) :
    f.perform (.reset i) = ⟨f.modifySet i fun _ => s.reset.1, s.reset.2⟩ := by
  obtain ⟨c, hc⟩ := exists_chain? (lt_of_setAt? hs)
  obtain rfl := Option.some.inj (hs.symm.trans (setAt?_of_chain? hc))
  have hreset : c.reset = ⟨{ c with own := c.own.reset.1 }, c.own.reset.2⟩ := rfl
  rw [perform, onChain_of_own hf hc hreset]

/-- After any history, a reset restores the flags of a set up to the first that refuses. -/
theorem resetOutcome_perform {calls : List Call} (hs : (after calls).setAt? i = some s) :
    (after calls).ResetOutcome i s ((after calls).perform (.reset i)) := by
  have hown (t : FlagSet) : ((after calls).modifySet i fun _ => t).setAt? i = some t := by
    rw [setAt?_modifySet, if_pos rfl, hs, Option.map_some]
  rw [perform_reset (acyclic_after calls) hs]
  obtain ⟨flags, hflags, e⟩ | ⟨before, k, later, flags, problem, hsplit, hflags, hk, e⟩ :=
    s.reset_cases
  · rw [e]
    exact .restored (FlagSet.not_refuses_of_restored hflags) hflags (hown _)
      fun j hj => getElem?_modifySet_of_ne hj _
  · rw [e]
    exact .stopped hsplit hk (FlagSet.not_refuses_of_restored hflags) hflags (hown _)
      (fun j hj => getElem?_modifySet_of_ne hj _)
      (perform_parse_of_parsed (s := { s with flags := flags ++ k :: later }) (hown _))

/-! ## An example -/

/-- A kind of values that take any text and cannot be brought back to the empty one. -/
def stubborn : CustomRules where
  isBool := false
  assign raw _ := if raw = "" then .error "nothing to take" else .ok raw
  restore := none
  render state := state

/-- A parsed set with a switch in front of a value that does not come back. -/
def stubbornHistory : List Call :=
  [.make "app", .add 0 ⟨⟨none, some "verbose"⟩, "", none, .ofBool false⟩,
    .add 0 ⟨⟨none, some "title"⟩, "", none, .custom stubborn ""⟩,
    .add 0 ⟨⟨none, some "quiet"⟩, "", none, .ofBool false⟩,
    .parse 0 {} ["--verbose", "--title=a", "--quiet", "rest"]]

theorem resetOutcome_perform_sample :
    let f := after stubbornHistory
    let marks (f : Forest) := (f.setAt? 0).map fun s =>
      (s.flags.map fun g => (g.text, g.isSet), s.parsed, s.leftovers)
    marks f = some ([("true", true), ("a", true), ("true", true)], true, ["rest"]) ∧
      marks (f.perform (.reset 0)).state =
        some ([("false", false), ("a", true), ("true", true)], true, ["rest"]) ∧
      ∃ s, f.setAt? 0 = some s ∧ f.ResetOutcome 0 s (f.perform (.reset 0)) :=
  ⟨by decide +kernel, by decide +kernel, _, rfl, resetOutcome_perform rfl⟩

end Forest

end LayeredFlags
