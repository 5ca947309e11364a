import LayeredFlags.Proofs.Resolution.Stages

/-!
# Tiers below

What the upper tiers of a parse have done stands, whatever becomes of the tiers below: an upper
failure is the failure of the whole parse, and what an upper tier has set stays as it was set.
-/

namespace LayeredFlags

/-- The options without the tiers below the command line. -/
def ParseOptions.argsOnly (o : ParseOptions) : ParseOptions :=
  { o with envEnabled := false, configFile := none }

/-- The options without the configuration tier. -/
def ParseOptions.withoutConfig (o : ParseOptions) : ParseOptions :=
  { o with configFile := none }

namespace Chain

variable {c d : Chain} {o : ParseOptions} {args : List String} {id : FlagId} {f : Flag}

/-- What a parse has done under some options stands when it goes on under further ones: it fails
with the same failure and state, or what it has set stays set to the same. -/
def Upheld (upper o : ParseOptions) (args : List String) (c : Chain) : Prop :=
  (∀ e, (c.parse upper args).failure = some e → c.parse o args = c.parse upper args) ∧
    ((c.parse upper args).failure = none → ∀ id f,
      (c.parse upper args).state.flagAt? id = some f → f.isSet = true →
        (c.parse o args).state.flagAt? id = some f)

theorem fill_argsOnly (o : ParseOptions) (c : Chain) : c.fill o.argsOnly = ⟨c, none⟩ := rfl

theorem fill_withoutConfig (o : ParseOptions) (c : Chain) :
    c.fill o.withoutConfig = c.fillFromEnv o (KeyIndex.ofChain o.rules c) :=
  Attempt.andThen_mk _

theorem fill_keeps (hf : c.flagAt? id = some f) (hset : f.isSet = true) :
    (c.fill o).state.flagAt? id = some f :=
  Attempt.andThen_preserves (P := fun d : Chain => d.flagAt? id = some f)
    (fillFromEnv_keeps _ hf hset) fun _ hd => fillFromConfig_keeps _ hd hset

/-- Options under which the tiers below begin with what they do under others uphold it. -/
theorem upheld_of_fill {upper : ParseOptions} {args : List String}
    (hfail : ∀ (d : Chain) e, (d.fill upper).failure = some e → d.fill o = d.fill upper)
    (hkeep : ∀ (d : Chain) id f, (d.fill upper).failure = none →
      (d.fill upper).state.flagAt? id = some f → f.isSet = true →
        (d.fill o).state.flagAt? id = some f) : Upheld upper o args c := by
  unfold Upheld parse
  by_cases hp : c.own.parsed = true
  · rw [if_pos hp, if_pos hp]
    exact ⟨fun _ _ => rfl, fun h => absurd h (Option.some_ne_none _)⟩
  · rw [if_neg hp, if_neg hp]
    obtain ⟨d, e | leftovers⟩ := c.readArgs args
    · exact ⟨fun _ _ => rfl, fun h => absurd h (Option.some_ne_none _)⟩
    · dsimp only
      constructor
      · intro e h
        cases hd : (d.fill upper).failure with
        | some e' => rw [hfail d e' hd]
        | none =>
          rw [Attempt.andThen_of_none hd] at h
          cases h
      · intro h id f hf hset
        rw [flagAt?_andThen_finish] at hf ⊢
        exact hkeep d id f (Attempt.failure_andThen_eq_none_iff.1 h).1 hf hset

/-- The tiers below never disturb those above: neither what the command line has done, nor what
the command line and the environment have done, whether they fail or the tiers below do. -/
theorem upheld_tiers (o : ParseOptions) (args : List String) (c : Chain) :
    Upheld o.argsOnly o args c ∧ Upheld o.withoutConfig o args c := by
  constructor
  · refine upheld_of_fill (fun d e h => ?_) fun d id f h hf hset => ?_
    · rw [fill_argsOnly] at h
      cases h
    · rw [fill_argsOnly] at hf
      exact fill_keeps hf hset
  · refine upheld_of_fill (fun d e h => ?_) fun d id f h hf hset => ?_
    · rw [fill_withoutConfig] at h ⊢
      exact Attempt.andThen_of_some h _
    · rw [fill_withoutConfig] at h hf
      rw [fill, Attempt.andThen_of_none h]
      exact fillFromConfig_keeps _ hf hset

end Chain

end LayeredFlags
