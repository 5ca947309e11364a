import LayeredFlags.Proofs.Resolution.Stages

/-!
# How a parse fails

Each stage of a parse has failures of its own.  A parse fails with a failure of one stage, behind
stages that succeeded.
-/

namespace LayeredFlags.Chain

variable {c d : Chain} {o : ParseOptions} {args : List String} {x : KeyIndex} {e : FlagError}

/-! ## The failures of each stage -/

/-- What can go wrong on the command line. -/
inductive ArgsFailure : FlagError → Prop
  | plan {e : FlagError} (h : PlanFailure e) : ArgsFailure e
  | valueRejected (flag raw : String) (problem : ValueProblem) :
      ArgsFailure (.valueRejected flag raw problem)

/-- What can go wrong in the environment. -/
inductive EnvFailure : FlagError → Prop
  | duplicateKey (key first second : String) : EnvFailure (.duplicateKey key first second)
  | valueRejected (flag raw : String) (problem : ValueProblem) :
      EnvFailure (.valueRejected flag raw problem)

/-- What can go wrong with a configuration file, other than decoding it. -/
inductive ConfigFailure : FlagError → Prop
  | unknownFlag (name : String) : ConfigFailure (.unknownFlag name)
  | ambiguousKey (key : String) (candidates : List String) :
      ConfigFailure (.ambiguousKey key candidates)
  | valueRejected (flag raw : String) (problem : ValueProblem) :
      ConfigFailure (.valueRejected flag raw problem)
  | fileNotFound (path : String) : ConfigFailure (.fileNotFound path)
  | unopenable (path reason : String) : ConfigFailure (.unopenable path reason)

/-- Assignments to flags of the chain fail only with values that refuse their strings. -/
theorem exists_rejected_of_carryOut {as : List TierAssignment}
    (has : ∀ a ∈ as, ∃ f, c.flagAt? a.id = some f) (h : (carryOut as c).failure = some e) :
    ∃ flag raw problem, e = .valueRejected flag raw problem := by
  obtain ⟨done, a, todo, rfl, -, ha, -⟩ := Attempt.exists_of_failure_each h
  obtain ⟨f, hf⟩ := has a (by simp)
  obtain ⟨g, hg, -⟩ := exists_flagAt?_of_shape (shape_carryOut done c).symm hf
  obtain ⟨hnone, -⟩ | ⟨f, problem, -, -, rfl⟩ := failure_assign_cases ha
  · cases hg.symm.trans hnone
  · exact ⟨_, _, _, rfl⟩

theorem argsFailure_of_readArgs (h : (c.readArgs args).outcome = .error e) : ArgsFailure e := by
  obtain hplan | ⟨flag, raw, problem, hrejected⟩ := outcome_readArgs_cases args c
  · exact .plan (planFailure_of_plan (hplan.symm.trans h))
  · rw [hrejected] at h
    cases h
    exact .valueRejected flag raw problem

theorem exists_of_clash? (h : x.clash? = some e) :
    ∃ key first second, e = .duplicateKey key first second := by
  obtain ⟨entry, -, hentry⟩ := List.exists_of_findSome?_eq_some h
  obtain ⟨key, -, hkey⟩ := List.exists_of_findSome?_eq_some hentry
  unfold KeyIndex.clashOn? at hkey
  split at hkey
  next => exact ⟨_, _, _, (Option.some.inj hkey).symm⟩
  next => cases hkey

theorem exists_rejected_of_bindingsOf {env : String → Option (List UInt8)}
    {fs : List (FlagId × Flag)} (h : bindingsOf x env fs = .error e) :
    ∃ flag raw problem, e = .valueRejected flag raw problem := by
  obtain ⟨-, p, -, -, -, hp⟩ := bindingsOf_eq_error_iff.1 h
  obtain ⟨key, bytes, -, rfl⟩ := consultEnv_eq_error_iff.1 hp
  exact ⟨_, _, _, rfl⟩

theorem fillFromEnv_failure (h : (c.fillFromEnv o x).failure = some e) :
    x.clash? = some e ∨
      x.clash? = none ∧ ∃ flag raw problem, e = .valueRejected flag raw problem := by
  unfold fillFromEnv at h
  by_cases ho : o.envEnabled = true
  · rw [if_pos ho] at h
    cases hclash : x.clash? with
    | some e' =>
      rw [hclash] at h
      exact .inl h
    | none =>
      refine .inr ⟨rfl, ?_⟩
      simp only [hclash] at h
      cases hbs : c.envBindings x o.env with
      | error e' =>
        rw [hbs] at h
        cases h
        exact exists_rejected_of_bindingsOf hbs
      | ok bs =>
        simp only [hbs, ← carryOut_bindingTier] at h
        refine exists_rejected_of_carryOut (fun a ha => ?_) h
        obtain ⟨b, hb, hid, -⟩ := exists_of_mem_bindingTier ha
        obtain ⟨f, hf, -⟩ := unset_of_envBindings hbs hb
        exact ⟨f, hid ▸ hf⟩
  · rw [if_neg ho] at h
    cases h

theorem envFailure_of_fillFromEnv (h : (c.fillFromEnv o x).failure = some e) : EnvFailure e := by
  obtain hclash | ⟨-, flag, raw, problem, rfl⟩ := fillFromEnv_failure h
  · obtain ⟨key, first, second, rfl⟩ := exists_of_clash? hclash
    exact .duplicateKey key first second
  · exact .valueRejected flag raw problem

theorem exists_unknown_of_configPath (h : c.configPath o = .error e) :
    ∃ name, e = .unknownFlag name := by
  unfold configPath at h
  split at h
  next => cases h
  next => cases h
  next name _ =>
    split at h
    next =>
      cases h
      exact ⟨name, rfl⟩
    next => cases h

theorem exists_ambiguous_of_resolveName {name : String} (h : c.resolveName x name = .error e) :
    ∃ key candidates, e = .ambiguousKey key candidates := by
  unfold resolveName at h
  cases hname : c.locateName name with
  | some id =>
    rw [hname] at h
    cases h
  | none =>
    simp only [hname, KeyIndex.reverse] at h
    split at h
    next => cases h
    next => cases h
    next =>
      cases h
      exact ⟨_, _, rfl⟩

/-- A pair is refused for its name, or by the value of its flag. -/
theorem receive_failure {path : String} {provided : List FlagId} {pair : String × String}
    (h : (receive o x path provided pair c).failure = some e) :
    (∃ name, e = .unknownFlag name) ∨ (∃ key candidates, e = .ambiguousKey key candidates) ∨
      ∃ id, (c.assign id pair.2 (.config path)).failure = some e := by
  unfold receive at h
  cases hname : c.resolveName x pair.1 with
  | error e' =>
    rw [hname] at h
    cases h
    exact .inr (.inl (exists_ambiguous_of_resolveName hname))
  | ok found =>
    cases found with
    | none =>
      rw [hname] at h
      by_cases hi : o.ignoreUndefined = true
      · rw [if_pos hi] at h
        cases h
      · rw [if_neg hi] at h
        cases h
        exact .inl ⟨_, rfl⟩
    | some id =>
      simp only [hname] at h
      by_cases hp : provided.contains id = true
      · rw [if_pos hp] at h
        cases h
      · rw [if_neg hp] at h
        exact .inr (.inr ⟨id, h⟩)

theorem configFailure_of_receive {path : String} {provided : List FlagId} {pair : String × String}
    (h : (receive o x path provided pair c).failure = some e) : ConfigFailure e := by
  obtain ⟨name, rfl⟩ | ⟨key, candidates, rfl⟩ | ⟨id, h⟩ := receive_failure h
  · exact .unknownFlag name
  · exact .ambiguousKey key candidates
  · obtain ⟨-, rfl⟩ | ⟨f, problem, -, -, rfl⟩ := failure_assign_cases h
    · exact .unknownFlag id.text
    · exact .valueRejected f.display pair.2 problem

/-- A configuration tier fails before its first pair, at a pair that is refused, or behind all of
them because the file cannot be decoded. -/
theorem fillFromConfig_failure_cases (h : (c.fillFromConfig o x).failure = some e) :
    ((∃ name, e = .unknownFlag name) ∨ (∃ path, e = .fileNotFound path) ∨
        ∃ path reason, e = .unopenable path reason) ∨
      (∃ path pair d, (receive o x path c.provided pair d).failure = some e) ∨
      ∃ path source, c.configPath o = .ok (some path) ∧ o.openFile path = .opened source ∧
        (o.decoder source).failure = some e ∧
        Attempt.each (receive o x path c.provided) (o.decoder source).pairs c =
          ⟨(c.fillFromConfig o x).state, none⟩ := by
  unfold fillFromConfig at h ⊢
  cases hpath : c.configPath o with
  | error e' =>
    rw [hpath] at h
    cases h
    exact .inl (.inl (exists_unknown_of_configPath hpath))
  | ok found =>
    cases found with
    | none =>
      rw [hpath] at h
      cases h
    | some path =>
      simp only [hpath, fillFromFile] at h ⊢
      cases hopen : o.openFile path with
      | missing =>
        rw [hopen] at h
        by_cases ha : o.allowMissing = true
        · rw [if_pos ha] at h
          cases h
        · rw [if_neg ha] at h
          cases h
          exact .inl (.inr (.inl ⟨path, rfl⟩))
      | refused reason =>
        rw [hopen] at h
        cases h
        exact .inl (.inr (.inr ⟨path, reason, rfl⟩))
      | opened source =>
        simp only [hopen, Decoded.feed] at h ⊢
        cases heach : (Attempt.each (receive o x path c.provided) (o.decoder source).pairs
            c).failure with
        | some e' =>
          rw [Attempt.andThen_of_some heach, heach] at h
          cases h
          obtain ⟨done, pair, todo, -, -, hpair, -⟩ := Attempt.exists_of_failure_each heach
          exact .inr (.inl ⟨path, pair, _, hpair⟩)
        | none =>
          rw [Attempt.andThen_of_none heach] at h ⊢
          exact .inr (.inr ⟨path, source, rfl, hopen, h, (Attempt.mk_of_none heach).symm⟩)

/-- A configuration tier that fails does so with a failure of its own, or because the file cannot be
decoded; then everything that was decoded has been received. -/
theorem fillFromConfig_failure (h : (c.fillFromConfig o x).failure = some e) :
    ConfigFailure e ∨
      ∃ path source, c.configPath o = .ok (some path) ∧ o.openFile path = .opened source ∧
        (o.decoder source).failure = some e ∧
        Attempt.each (receive o x path c.provided) (o.decoder source).pairs c =
          ⟨(c.fillFromConfig o x).state, none⟩ := by
  obtain (⟨name, rfl⟩ | ⟨path, rfl⟩ | ⟨path, reason, rfl⟩) | ⟨path, pair, d, hpair⟩ | hdecode :=
    fillFromConfig_failure_cases h
  · exact .inl (.unknownFlag name)
  · exact .inl (.fileNotFound path)
  · exact .inl (.unopenable path reason)
  · exact .inl (configFailure_of_receive hpair)
  · exact .inr hdecode

/-! ## The stage that fails -/

/-- The command line was read, and what comes of it are leftover arguments. -/
def PassesArgs (args : List String) (c : Chain) : Prop :=
  ∃ leftovers, c.readArgs args = ⟨c.afterArgs args, .ok leftovers⟩

theorem passesArgs_of_parse (h : (c.parse o args).failure = none) : c.PassesArgs args :=
  ⟨_, by rw [← outcome_readArgs_of_parse h]; rfl⟩

/-- The stages before the configuration file succeed. -/
structure PassesEnv (o : ParseOptions) (args : List String) (c : Chain) : Prop where
  read : c.PassesArgs args
  filled : (c.afterArgs args).fillFromEnv o (KeyIndex.ofChain o.rules c) = ⟨c.afterEnv o args, none⟩

/-- The stage in which a parse fails, behind stages that succeed. -/
inductive FailsIn (o : ParseOptions) (args : List String) (c : Chain) : FlagError → Prop
  | parsed (h : c.own.parsed = true) : FailsIn o args c (.alreadyParsed c.own.name)
  | args (e : FlagError) (h : (c.readArgs args).outcome = .error e) : FailsIn o args c e
  | env (e : FlagError) (hargs : c.PassesArgs args)
      (h : ((c.afterArgs args).fillFromEnv o (KeyIndex.ofChain o.rules c)).failure = some e) :
      FailsIn o args c e
  | config (e : FlagError) (henv : c.PassesEnv o args)
      (h : ((c.afterEnv o args).fillFromConfig o (KeyIndex.ofChain o.rules c)).failure = some e)
      (hstate : (c.parse o args).state =
        ((c.afterEnv o args).fillFromConfig o (KeyIndex.ofChain o.rules c)).state) :
      FailsIn o args c e

theorem keyIndex_afterArgs (r : KeyRules) (args : List String) (c : Chain) :
    KeyIndex.ofChain r (c.afterArgs args) = KeyIndex.ofChain r c :=
  keyIndex_of_shape (shape_afterArgs args c) r

/-- What a parse does behind a command line that was read. -/
theorem parse_of_passesArgs {leftovers : List String} (hp : c.own.parsed = false)
    (hread : c.readArgs args = ⟨c.afterArgs args, .ok leftovers⟩) (o : ParseOptions) :
    c.parse o args =
      (((c.afterArgs args).fillFromEnv o (KeyIndex.ofChain o.rules c)).andThen
        (fillFromConfig o (KeyIndex.ofChain o.rules c))).andThen (finish leftovers) := by
  rw [parse_of_readArgs hp hread, fill_eq, keyIndex_afterArgs]

theorem failsIn_of_parse (h : (c.parse o args).failure = some e) : c.FailsIn o args e := by
  by_cases hp : c.own.parsed = true
  · unfold parse at h
    rw [if_pos hp] at h
    cases h
    exact .parsed hp
  cases hout : (c.readArgs args).outcome with
  | error e' =>
    have hread : c.readArgs args = ⟨c.afterArgs args, .error e'⟩ := by rw [← hout]; rfl
    unfold parse at h
    rw [if_neg hp, hread] at h
    cases h
    exact .args e hout
  | ok leftovers =>
    have hread : c.readArgs args = ⟨c.afterArgs args, .ok leftovers⟩ := by rw [← hout]; rfl
    have hargs : c.PassesArgs args := ⟨leftovers, hread⟩
    have hparse := parse_of_passesArgs (by simpa using hp) hread o
    have hstate : ((c.afterArgs args).fillFromEnv o (KeyIndex.ofChain o.rules c)).state =
        c.afterEnv o args := by
      rw [← keyIndex_afterArgs o.rules args c]
      rfl
    cases henv : ((c.afterArgs args).fillFromEnv o (KeyIndex.ofChain o.rules c)).failure with
    | some e' =>
      rw [hparse, Attempt.andThen_of_some henv, Attempt.andThen_of_some henv, henv] at h
      cases h
      exact .env e hargs henv
    | none =>
      have hpass : c.PassesEnv o args :=
        ⟨hargs, by rw [← hstate, Attempt.mk_of_none henv]⟩
      rw [Attempt.andThen_of_none henv, hstate] at hparse
      cases hconfig : ((c.afterEnv o args).fillFromConfig o
          (KeyIndex.ofChain o.rules c)).failure with
      | some e' =>
        rw [Attempt.andThen_of_some hconfig] at hparse
        rw [hparse, hconfig] at h
        cases h
        exact .config e hpass hconfig (congrArg Attempt.state hparse)
      | none =>
        rw [hparse, Attempt.andThen_of_none hconfig] at h
        cases h

end LayeredFlags.Chain
