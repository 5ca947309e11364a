import LayeredFlags.Proofs.Resolution.Priority

/-!
# Variables without influence

A parse reads no variables but the keys of flags that are not set behind the command line.  So two
environments that agree on these keys make the same parse of it, and variables of flags that were
set before, or that the command line assigns, or that are keys of no flag at all, have no influence,
not even by bytes that are no text.
-/

namespace LayeredFlags

/-- The options with another environment. -/
def ParseOptions.withEnv (env : String → Option (List UInt8)) (o : ParseOptions) : ParseOptions :=
  { o with env }

namespace Chain

variable {c : Chain} {o : ParseOptions} {args : List String}
variable {env env' : String → Option (List UInt8)}

/-- Two environments agree on all keys of the flags that are not set. -/
def EnvAgree (r : KeyRules) (env env' : String → Option (List UInt8)) (c : Chain) : Prop :=
  ∀ id f key, c.flagAt? id = some f → f.isSet = false → key ∈ r.keys f → env key = env' key

/-- Two environments differ at most in variables that are keys of no flag, or of none but flags that
are set or that the arguments assign. -/
def DifferInProvided (r : KeyRules) (args : List String) (env env' : String → Option (List UInt8))
    (c : Chain) : Prop :=
  ∀ key, env key ≠ env' key → ∀ id f, c.flagAt? id = some f → key ∈ r.keys f →
    f.isSet = true ∨ id ∈ places (c.argTier args)

/-! ## The environment tier -/

theorem consultEnv_of_agree {keys : List String} (h : ∀ key ∈ keys, env key = env' key)
    (flag : String) : consultEnv env flag keys = consultEnv env' flag keys := by
  induction keys with
  | nil => rfl
  | cons key rest ih =>
    rw [List.forall_mem_cons] at h
    simp only [consultEnv, h.1, ih h.2]

theorem bindingsOf_of_agree {x : KeyIndex} {fs : List (FlagId × Flag)}
    (h : ∀ p ∈ fs, ∀ key ∈ x.keysAt p.1, env key = env' key) :
    bindingsOf x env fs = bindingsOf x env' fs := by
  induction fs with
  | nil => rfl
  | cons p rest ih =>
    rw [List.forall_mem_cons] at h
    simp only [bindingsOf, consultEnv_of_agree h.1, ih h.2]

theorem envBindings_of_agree {r : KeyRules} (h : c.EnvAgree r env env') :
    c.envBindings (KeyIndex.ofChain r c) env = c.envBindings (KeyIndex.ofChain r c) env' := by
  refine bindingsOf_of_agree fun p hp key hkey => ?_
  obtain ⟨id, f⟩ := p
  obtain ⟨hf, hunset⟩ := List.mem_filter.1 hp
  have hf : c.flagAt? id = some f := mem_located_iff.1 hf
  rw [KeyIndex.keysAt_ofChain r hf] at hkey
  exact h id f key hf (by simpa using hunset) hkey

theorem fillFromEnv_of_agree (h : c.EnvAgree o.rules env env') :
    c.fillFromEnv (o.withEnv env) (KeyIndex.ofChain o.rules c) =
      c.fillFromEnv (o.withEnv env') (KeyIndex.ofChain o.rules c) := by
  have hbindings : c.envBindings (KeyIndex.ofChain o.rules c) (o.withEnv env).env =
      c.envBindings (KeyIndex.ofChain o.rules c) (o.withEnv env').env := envBindings_of_agree h
  unfold fillFromEnv
  rw [hbindings]
  rfl

theorem fill_of_agree (h : c.EnvAgree o.rules env env') :
    c.fill (o.withEnv env) = c.fill (o.withEnv env') := by
  -- the configuration tier does not look at the environment
  have hfill (e : String → Option (List UInt8)) : c.fill (o.withEnv e) =
      (c.fillFromEnv (o.withEnv e) (KeyIndex.ofChain o.rules c)).andThen
        (fillFromConfig o (KeyIndex.ofChain o.rules c)) := rfl
  rw [hfill, hfill, fillFromEnv_of_agree h]

/-! ## Parses -/

/-- Options under which the tiers below do the same, where the command line can be read, make the
same parse. -/
theorem parse_of_fill {o' : ParseOptions}
    (h : ∀ leftovers, c.readArgs args = ⟨c.afterArgs args, .ok leftovers⟩ →
      (c.afterArgs args).fill o = (c.afterArgs args).fill o') :
    c.parse o args = c.parse o' args := by
  unfold parse
  split_ifs
  · rfl
  · cases hread : c.readArgs args with
    | mk d outcome =>
      obtain rfl : c.afterArgs args = d := congrArg ArgReading.chain hread
      cases outcome with
      | error e => rfl
      | ok leftovers => exact congrArg (Attempt.andThen · (finish leftovers)) (h leftovers hread)

theorem envAgree_afterArgs {leftovers : List String}
    (hread : c.readArgs args = ⟨c.afterArgs args, .ok leftovers⟩) {r : KeyRules}
    (h : c.DifferInProvided r args env env') : (c.afterArgs args).EnvAgree r env env' := by
  intro id f key hf hunset hkey
  by_contra hne
  obtain ⟨g, hg, hshape⟩ := exists_flagAt?_of_shape (shape_afterArgs args c) hf
  have hnames : g.names = f.names := congrArg Prod.fst hshape
  have hset := h key hne id g hg (by rwa [KeyRules.keys, hnames])
  -- a flag that is set or assigned is set behind the command line
  have hcarry := carryOut_argTier hread
  have hprovided := mem_provided_carryOut (congrArg Attempt.failure hcarry) hg hset
  rw [hcarry] at hprovided
  exact not_mem_provided hf hunset hprovided

/-- Environments that agree on the keys of the flags that the command line leaves unset make the
same parse, and so do environments that differ only in variables of other flags or of none. -/
theorem parse_of_agreeing_env (o : ParseOptions) (args : List String) (c : Chain)
    (env env' : String → Option (List UInt8)) :
    ((c.afterArgs args).EnvAgree o.rules env env' →
        c.parse (o.withEnv env) args = c.parse (o.withEnv env') args) ∧
      (c.DifferInProvided o.rules args env env' →
        c.parse (o.withEnv env) args = c.parse (o.withEnv env') args) := by
  constructor
  · intro h
    exact parse_of_fill fun _ _ => fill_of_agree h
  · intro h
    exact parse_of_fill fun _ hread => fill_of_agree (envAgree_afterArgs hread h)

/-- An environment with one variable. -/
def sampleEnv (key : String) : Option (List UInt8) :=
  if key = "HOST" then some "h".toUTF8.toList else none

/-- The same with two more variables, which hold no text. -/
def sampleNoise (key : String) : Option (List UInt8) :=
  if key = "TAG" ∨ key = "USER" then some [0xff] else sampleEnv key

theorem parse_of_agreeing_env_sample :
    let args := ["--tag", "a"]
    (sampleChain.afterArgs args).EnvAgree sampleOptions.rules sampleEnv sampleNoise ∧
      sampleChain.DifferInProvided sampleOptions.rules args sampleEnv sampleNoise ∧
      (sampleChain.parse (sampleOptions.withEnv sampleNoise) args).failure = none ∧
      sampleChain.parse (sampleOptions.withEnv sampleEnv) args =
        sampleChain.parse (sampleOptions.withEnv sampleNoise) args := by
  intro args
  have hagree :
      (sampleChain.afterArgs args).EnvAgree sampleOptions.rules sampleEnv sampleNoise := by
    have hall : ∀ p ∈ (sampleChain.afterArgs args).located, p.2.isSet = false →
        ∀ key ∈ sampleOptions.rules.keys p.2, sampleEnv key = sampleNoise key := by decide +kernel
    exact fun id f key hf hunset hkey => hall (id, f) (mem_located_iff.2 hf) hunset key hkey
  have hdiffer : sampleChain.DifferInProvided sampleOptions.rules args sampleEnv sampleNoise := by
    have hall : ∀ key ∈ ["TAG", "USER"], ∀ p ∈ sampleChain.located,
        key ∈ sampleOptions.rules.keys p.2 →
          p.2.isSet = true ∨ p.1 ∈ places (sampleChain.argTier args) := by decide +kernel
    intro key hne id f hf hkey
    have hnoise : key = "TAG" ∨ key = "USER" := by
      by_contra h
      exact hne (if_neg h).symm
    exact hall key (by simpa using hnoise) (id, f) (mem_located_iff.2 hf) hkey
  have hsame := parse_of_agreeing_env sampleOptions args sampleChain sampleEnv sampleNoise
  exact ⟨hagree, hdiffer, by decide +kernel, hsame.2 hdiffer⟩

end Chain

end LayeredFlags
