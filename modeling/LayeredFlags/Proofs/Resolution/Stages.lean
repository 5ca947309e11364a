import LayeredFlags.Proofs.Arguments.Plan
import LayeredFlags.Proofs.Resolution.Configuration
import LayeredFlags.Proofs.Resolution.Environment
import LayeredFlags.Resolution.Parse

/-!
# Stages of a parse

A parse goes through three stages: the command line, the environment, the configuration file.  If
it succeeds, each stage has carried out the assignments of its own tier, on the chain that the
stages before it left.
-/

namespace LayeredFlags.Chain

variable {c d : Chain} {o : ParseOptions} {args : List String} {id : FlagId} {f : Flag}

/-- The assignments of the command line. -/
def argTier (args : List String) (c : Chain) : List TierAssignment :=
  (c.plan args).assignments.map (·.ofTier .args)

/-- The chain that the command line leaves. -/
def afterArgs (args : List String) (c : Chain) : Chain := (c.readArgs args).chain

/-- The chain that the command line and the environment leave. -/
def afterEnv (o : ParseOptions) (args : List String) (c : Chain) : Chain :=
  let d := c.afterArgs args
  (d.fillFromEnv o (KeyIndex.ofChain o.rules d)).state

/-- What a parse does: nothing on a parsed set, only the failure of the command line, or what the
tiers below make of the chain that the command line leaves. -/
theorem parse_cases (o : ParseOptions) (args : List String) (c : Chain) :
    (c.own.parsed = true ∧ c.parse o args = ⟨c, some (.alreadyParsed c.own.name)⟩) ∨
      (∃ e, c.parse o args = ⟨c.afterArgs args, some e⟩) ∨
      ∃ leftovers, c.readArgs args = ⟨c.afterArgs args, .ok leftovers⟩ ∧
        c.parse o args = ((c.afterArgs args).fill o).andThen (finish leftovers) := by
  unfold parse afterArgs
  by_cases hp : c.own.parsed = true
  · exact .inl ⟨hp, if_pos hp⟩
  · rw [if_neg hp]
    obtain ⟨d, e | leftovers⟩ := c.readArgs args
    · exact .inr (.inl ⟨e, rfl⟩)
    · exact .inr (.inr ⟨leftovers, rfl, rfl⟩)

theorem fill_eq (o : ParseOptions) (c : Chain) :
    c.fill o = (c.fillFromEnv o (KeyIndex.ofChain o.rules c)).andThen
      (fillFromConfig o (KeyIndex.ofChain o.rules c)) := rfl

theorem parse_of_readArgs {leftovers : List String} (hparsed : c.own.parsed = false)
    (h : c.readArgs args = ⟨d, .ok leftovers⟩) :
    c.parse o args = (d.fill o).andThen (finish leftovers) := by
  unfold parse
  rw [if_neg (by simp [hparsed]), h]

theorem carryOut_argTier {leftovers : List String}
    (h : c.readArgs args = ⟨c.afterArgs args, .ok leftovers⟩) :
    carryOut (c.argTier args) c = ⟨c.afterArgs args, none⟩ := by
  rw [readArgs_eq_carryOut] at h
  unfold argTier
  rw [← assignAll_eq_carryOut]
  cases hfail : (assignAll .args (c.plan args).assignments c).failure with
  | some e =>
    rw [ArgPlan.carryOut_of_some hfail] at h
    cases (ArgReading.mk.inj h).2
  | none =>
    rw [ArgPlan.carryOut_of_none hfail] at h
    rw [← (ArgReading.mk.inj h).1, Attempt.mk_of_none hfail]

/-! ## What every assignment keeps -/

section Kept

variable {P : Chain → Prop} (hP : ∀ d id raw o, P d → P (d.assign id raw o).state)
include hP

theorem kept_carryOut (hc : P c) (as : List TierAssignment) : P (carryOut as c).state :=
  Attempt.each_preserves (fun a _ d hd => hP d a.id a.raw a.origin hd) hc

theorem kept_afterArgs (hc : P c) (args : List String) : P (c.afterArgs args) := by
  unfold afterArgs
  rw [readArgs_eq_carryOut, ArgPlan.chain_carryOut, assignAll_eq_carryOut]
  exact kept_carryOut hP hc _

theorem kept_fillFromEnv (hc : P c) (o : ParseOptions) (x : KeyIndex) :
    P (c.fillFromEnv o x).state := by
  obtain ⟨-, e⟩ | ⟨p, e⟩ | ⟨bs, -, -, e⟩ := fillFromEnv_cases o x c <;> rw [e]
  · exact hc
  · exact hc
  · exact kept_carryOut hP hc _

theorem kept_fillFromConfig (hc : P c) (o : ParseOptions) (x : KeyIndex) :
    P (c.fillFromConfig o x).state := by
  obtain ⟨-, failure, e⟩ | ⟨path, source, -, -, e⟩ := fillFromConfig_cases o x c <;> rw [e]
  · exact hc
  · refine Decoded.feed_preserves (fun pair d hd => ?_) hc
    obtain ⟨-, e⟩ | ⟨p, e⟩ | ⟨id, -, -, e⟩ :=
      receive_cases (c := d) rfl o x path c.provided pair <;> rw [e]
    · exact hd
    · exact hd
    · exact hP d id pair.2 (.config path) hd

/-- A parse is made up of assignments; if it succeeds, it was not done before, and the set is
marked as parsed behind them. -/
theorem kept_parse (hc : P c) (o : ParseOptions) (args : List String) :
    ∃ d, P d ∧ ((∃ e, c.parse o args = ⟨d, some e⟩) ∨
      c.own.parsed = false ∧ ∃ leftovers, c.parse o args = finish leftovers d) := by
  unfold parse
  by_cases hp : c.own.parsed = true
  · rw [if_pos hp]
    exact ⟨c, hc, .inl ⟨_, rfl⟩⟩
  · rw [if_neg hp]
    have hargs := kept_afterArgs hP hc args
    unfold afterArgs at hargs
    generalize c.readArgs args = r at hargs ⊢
    obtain ⟨d, e | leftovers⟩ := r
    · exact ⟨d, hargs, .inl ⟨e, rfl⟩⟩
    · have hfill : P (d.fill o).state :=
        Attempt.andThen_preserves (kept_fillFromEnv hP hargs o _)
          fun _ hd => kept_fillFromConfig hP hd o _
      refine ⟨(d.fill o).state, hfill, ?_⟩
      dsimp only
      cases hfail : (d.fill o).failure with
      | some e =>
        rw [Attempt.andThen_of_some hfail]
        exact .inl ⟨e, by rw [← hfail]⟩
      | none =>
        rw [Attempt.andThen_of_none hfail]
        exact .inr ⟨by simpa using hp, leftovers, rfl⟩

end Kept

theorem shape_afterArgs (args : List String) (c : Chain) : (c.afterArgs args).shape = c.shape :=
  kept_afterArgs (P := fun d => d.shape = c.shape)
    (fun d id raw o hd => (shape_assign d id raw o).trans hd) rfl args

/-- A parse keeps the shape, also where it fails. -/
theorem shape_parse (o : ParseOptions) (args : List String) (c : Chain) :
    (c.parse o args).state.shape = c.shape := by
  obtain ⟨d, hd, ⟨e, h⟩ | ⟨-, leftovers, h⟩⟩ := kept_parse (P := fun d => d.shape = c.shape)
    (fun d id raw o hd => (shape_assign d id raw o).trans hd) rfl o args <;> rw [h] <;> exact hd

/-! ## Tiers -/

/-- The assignments of a parse, tier by tier. -/
structure Tiers where
  args : List TierAssignment
  env : List TierAssignment
  config : List TierAssignment

/-- The tiers of a parse, each on the chain that the tiers above it leave. -/
def tiers (o : ParseOptions) (args : List String) (c : Chain) : Tiers :=
  ⟨c.argTier args, (c.afterArgs args).envTier o, (c.afterEnv o args).configTier o⟩

/-- A parse carries out its three tiers one after another, and marks the set as parsed. -/
structure Staged (o : ParseOptions) (args : List String) (c : Chain) : Prop where
  args_stage : carryOut (c.tiers o args).args c = ⟨c.afterArgs args, none⟩
  env_stage : carryOut (c.tiers o args).env (c.afterArgs args) = ⟨c.afterEnv o args, none⟩
  config_accepted : (carryOut (c.tiers o args).config (c.afterEnv o args)).failure = none
  config_stage : ∃ leftovers, c.parse o args =
    (carryOut (c.tiers o args).config (c.afterEnv o args)).andThen (finish leftovers)

theorem staged_of_parse (h : (c.parse o args).failure = none) : Staged o args c := by
  obtain ⟨-, e⟩ | ⟨p, e⟩ | ⟨leftovers, hread, e⟩ := parse_cases o args c
  · rw [e] at h
    cases h
  · rw [e] at h
    cases h
  · rw [e, fill, Attempt.failure_andThen_eq_none_iff, Attempt.failure_andThen_eq_none_iff] at h
    obtain ⟨⟨henv, hconfig⟩, -⟩ := h
    have hindex : KeyIndex.ofChain o.rules (c.afterArgs args) =
        KeyIndex.ofChain o.rules (c.afterEnv o args) :=
      keyIndex_of_shape (shape_fillFromEnv ..).symm o.rules
    have hstate : ((c.afterArgs args).fillFromEnv o
        (KeyIndex.ofChain o.rules (c.afterArgs args))).state = c.afterEnv o args := rfl
    rw [hstate, hindex] at hconfig
    have hcarry := fillFromConfig_eq_carryOut hconfig
    refine ⟨carryOut_argTier hread, ?_, ?_, leftovers, ?_⟩
    · unfold tiers
      rw [← fillFromEnv_eq_carryOut henv, ← hstate, Attempt.mk_of_none henv]
    · exact hcarry ▸ hconfig
    · rw [e, fill, Attempt.andThen_of_none henv, hstate, hindex, hcarry]
      rfl

/-- What a parse that succeeds leaves over is what the command line leaves over. -/
theorem outcome_readArgs_of_parse (h : (c.parse o args).failure = none) :
    (c.readArgs args).outcome = .ok (c.parse o args).state.own.leftovers := by
  obtain ⟨-, e⟩ | ⟨p, e⟩ | ⟨leftovers, hread, e⟩ := parse_cases o args c
  · rw [e] at h
    cases h
  · rw [e] at h
    cases h
  · rw [e, Attempt.failure_andThen_eq_none_iff] at h
    rw [e, hread, Attempt.andThen_of_none h.1]
    rfl

theorem flagAt?_finish (leftovers : List String) (c : Chain) (id : FlagId) :
    (finish leftovers c).state.flagAt? id = c.flagAt? id := by
  obtain ⟨depth, index⟩ := id
  cases depth <;> rfl

theorem flagAt?_andThen_finish (a : Attempt Chain) (leftovers : List String) (id : FlagId) :
    (a.andThen (finish leftovers)).state.flagAt? id = a.state.flagAt? id := by
  cases h : a.failure with
  | none => rw [Attempt.andThen_of_none h, flagAt?_finish]
  | some e => rw [Attempt.andThen_of_some h]

theorem shape_afterEnv (o : ParseOptions) (args : List String) (c : Chain) :
    (c.afterEnv o args).shape = c.shape :=
  (shape_fillFromEnv ..).trans (shape_afterArgs args c)

end LayeredFlags.Chain
