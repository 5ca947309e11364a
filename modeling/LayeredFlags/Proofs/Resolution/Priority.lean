import LayeredFlags.Proofs.Resolution.Stages

/-!
# The order of the tiers

A tier passes over every flag that is set when it begins.  So no flag is assigned by two tiers, and
after a parse that succeeds every flag is what the one tier that assigned it has made of it.
-/

namespace LayeredFlags.Chain

variable {c d : Chain} {o : ParseOptions} {args : List String} {id : FlagId} {f : Flag}

theorem not_mem_envTier (hid : id ∈ c.provided) : id ∉ places (c.envTier o) := by
  intro hmem
  obtain ⟨f, key, text, hf, hunset, -⟩ := firstBound_of_mem_envTier hmem
  exact not_mem_provided hf hunset hid

theorem not_mem_configTier (hid : id ∈ c.provided) : id ∉ places (c.configTier o) := by
  intro hmem
  obtain ⟨f, path, source, hf, hunset, -⟩ := opened_of_mem_configTier hmem
  exact not_mem_provided hf hunset hid

/-- Every tier assigns nothing but flags of the chain. -/
theorem flagAt?_of_mem_tiers (hid : id ∈ places (c.tiers o args).args ∨
    id ∈ places (c.tiers o args).env ∨ id ∈ places (c.tiers o args).config) :
    ∃ f, c.flagAt? id = some f := by
  have back {d : Chain} (hd : d.shape = c.shape) {f : Flag} (hf : d.flagAt? id = some f) :
      ∃ g, c.flagAt? id = some g := by
    obtain ⟨g, hg, -⟩ := exists_flagAt?_of_shape hd hf
    exact ⟨g, hg⟩
  rcases hid with hid | hid | hid
  · obtain ⟨a, ha, rfl⟩ := List.mem_map.1 hid
    obtain ⟨b, hb, rfl⟩ := List.mem_map.1 ha
    exact hasPlaces_plan c args b hb
  · obtain ⟨f, key, text, hf, -⟩ := firstBound_of_mem_envTier hid
    exact back (shape_afterArgs args c) hf
  · obtain ⟨f, path, source, hf, -⟩ := opened_of_mem_configTier hid
    exact back (shape_afterEnv o args c) hf

/-- What a parse makes of the flag at a place, with the tier that decides it. -/
inductive Decided (o : ParseOptions) (args : List String) (c : Chain) (id : FlagId) (f : Flag) :
    Option Flag → Prop
  /-- A flag of the command line takes the values that its arguments give it. -/
  | byArgs {v : Value} (mem : id ∈ places (c.tiers o args).args)
    (value : f.value.assignEach (rawsAt id (c.tiers o args).args) = .ok v) :
    Decided o args c id f (some (f.given v .args))
  /-- A flag of the environment takes the strings of the first of its own keys that is bound. -/
  | byEnv {v : Value} {key text : String} (mem : id ∈ places (c.tiers o args).env)
    (bound : FirstBound o.env (o.rules.keys f) key text)
    (strings : rawsAt id (c.tiers o args).env = envStrings o.envSplit text)
    (value : f.value.assignEach (rawsAt id (c.tiers o args).env) = .ok v) :
    Decided o args c id f (some (f.given v (.env key)))
  /-- A flag of the configuration takes the values of all pairs that mean it. -/
  | byConfig {v : Value} {path : String} {source : Source}
    (mem : id ∈ places (c.tiers o args).config)
    (path_eq : (c.afterEnv o args).configPath o = .ok (some path))
    (opened : o.openFile path = .opened source)
    (strings : rawsAt id (c.tiers o args).config = ((o.decoder source).pairs.filter fun pair =>
      c.means (KeyIndex.ofChain o.rules c) id pair.1).map Prod.snd)
    (value : f.value.assignEach (rawsAt id (c.tiers o args).config) = .ok v) :
    Decided o args c id f (some (f.given v (.config path)))
  /-- A flag of no tier is what it was. -/
  | byNone (args_free : id ∉ places (c.tiers o args).args)
    (env_free : id ∉ places (c.tiers o args).env)
    (config_free : id ∉ places (c.tiers o args).config) :
    Decided o args c id f (some f)

/-- The tiers of a parse stand in their order. -/
structure TierOrder (o : ParseOptions) (args : List String) (c : Chain) : Prop
    extends Staged o args c where
  /-- The tiers assign nothing but flags of the chain. -/
  known : ∀ id, id ∈ places (c.tiers o args).args ∨ id ∈ places (c.tiers o args).env ∨
    id ∈ places (c.tiers o args).config → ∃ f, c.flagAt? id = some f
  /-- No flag is assigned by two tiers. -/
  disjoint : [places (c.tiers o args).args, places (c.tiers o args).env,
    places (c.tiers o args).config].Pairwise List.Disjoint
  /-- The tiers below the command line pass over the flags that were set before the parse. -/
  passed_over : ∀ id ∈ c.provided,
    id ∉ places (c.tiers o args).env ∧ id ∉ places (c.tiers o args).config
  decided : ∀ id f, c.flagAt? id = some f →
    Decided o args c id f ((c.parse o args).state.flagAt? id)

namespace Staged

/-- What was set before the parse, or is assigned by the command line, is set behind it. -/
theorem mem_provided_afterArgs (h : Staged o args c) (hf : c.flagAt? id = some f)
    (hid : f.isSet = true ∨ id ∈ places (c.tiers o args).args) :
    id ∈ (c.afterArgs args).provided := by
  have := mem_provided_carryOut (congrArg Attempt.failure h.args_stage) hf hid
  rwa [h.args_stage] at this

/-- What is set behind the command line, or is assigned by the environment, is set behind it. -/
theorem mem_provided_afterEnv (h : Staged o args c)
    (hid : id ∈ (c.afterArgs args).provided ∨ id ∈ places (c.tiers o args).env) :
    id ∈ (c.afterEnv o args).provided := by
  have key {f : Flag} (hf : (c.afterArgs args).flagAt? id = some f)
      (hset : f.isSet = true ∨ id ∈ places (c.tiers o args).env) :
      id ∈ (c.afterEnv o args).provided := by
    have := mem_provided_carryOut (congrArg Attempt.failure h.env_stage) hf hset
    rwa [h.env_stage] at this
  rcases hid with hid | hid
  · obtain ⟨f, hf, hset⟩ := mem_provided_iff.1 hid
    exact key hf (.inl hset)
  · obtain ⟨f, _, _, hf, -⟩ := firstBound_of_mem_envTier hid
    exact key hf (.inr hid)

theorem disjoint_tiers (h : Staged o args c) :
    [places (c.tiers o args).args, places (c.tiers o args).env,
      places (c.tiers o args).config].Pairwise List.Disjoint := by
  have setByArgs {id : FlagId} (hid : id ∈ places (c.tiers o args).args) :
      id ∈ (c.afterArgs args).provided := by
    obtain ⟨f, hf⟩ := flagAt?_of_mem_tiers (.inl hid)
    exact h.mem_provided_afterArgs hf (.inr hid)
  have hae : List.Disjoint (places (c.tiers o args).args) (places (c.tiers o args).env) :=
    fun id ha he => not_mem_envTier (setByArgs ha) he
  have hac : List.Disjoint (places (c.tiers o args).args) (places (c.tiers o args).config) :=
    fun id ha hc => not_mem_configTier (h.mem_provided_afterEnv (.inl (setByArgs ha))) hc
  have hec : List.Disjoint (places (c.tiers o args).env) (places (c.tiers o args).config) :=
    fun id he hc => not_mem_configTier (h.mem_provided_afterEnv (.inr he)) hc
  simp [hae, hac, hec]

theorem not_mem_of_mem_provided (h : Staged o args c) (hid : id ∈ c.provided) :
    id ∉ places (c.tiers o args).env ∧ id ∉ places (c.tiers o args).config := by
  obtain ⟨f, hf, hset⟩ := mem_provided_iff.1 hid
  have hset := h.mem_provided_afterArgs hf (.inl hset)
  exact ⟨not_mem_envTier hset, not_mem_configTier (h.mem_provided_afterEnv (.inl hset))⟩

/-! Each stage leaves the flags that its tier does not assign. -/

theorem flagAt?_afterArgs (h : Staged o args c) (hid : id ∉ places (c.tiers o args).args) :
    (c.afterArgs args).flagAt? id = c.flagAt? id := by
  have := flagAt?_carryOut_of_not_mem (c := c) hid
  rwa [h.args_stage] at this

theorem flagAt?_afterEnv (h : Staged o args c) (hid : id ∉ places (c.tiers o args).env) :
    (c.afterEnv o args).flagAt? id = (c.afterArgs args).flagAt? id := by
  have := flagAt?_carryOut_of_not_mem (c := c.afterArgs args) hid
  rwa [h.env_stage] at this

theorem flagAt?_parse_eq (h : Staged o args c) (id : FlagId) :
    (c.parse o args).state.flagAt? id =
      (carryOut (c.tiers o args).config (c.afterEnv o args)).state.flagAt? id := by
  obtain ⟨leftovers, hparse⟩ := h.config_stage
  rw [hparse, Attempt.andThen_of_none h.config_accepted, flagAt?_finish]

theorem flagAt?_parse (h : Staged o args c) (hid : id ∉ places (c.tiers o args).config) :
    (c.parse o args).state.flagAt? id = (c.afterEnv o args).flagAt? id :=
  (h.flagAt?_parse_eq id).trans (flagAt?_carryOut_of_not_mem hid)

/-! Each stage decides the flags that its tier assigns. -/

theorem decided_by_args (h : Staged o args c) (hf : c.flagAt? id = some f)
    (hid : id ∈ places (c.tiers o args).args) :
    Decided o args c id f ((c.parse o args).state.flagAt? id) := by
  have hset := h.mem_provided_afterArgs hf (.inr hid)
  obtain ⟨v, hv, hvalue⟩ : ∃ v, (c.afterArgs args).flagAt? id = some (f.given v .args) ∧
      f.value.assignEach (rawsAt id (c.tiers o args).args) = .ok v := by
    have := flagAt?_carryOut_of_mem (o := .args) (congrArg Attempt.failure h.args_stage) hf hid
    rw [h.args_stage] at this
    refine this fun a ha _ => ?_
    obtain ⟨b, -, rfl⟩ := List.mem_map.1 ha
    rfl
  rw [h.flagAt?_parse (not_mem_configTier (h.mem_provided_afterEnv (.inl hset))),
    h.flagAt?_afterEnv (not_mem_envTier hset), hv]
  exact .byArgs hid hvalue

theorem decided_by_env (h : Staged o args c) (hf : c.flagAt? id = some f)
    (hargs : id ∉ places (c.tiers o args).args) (hid : id ∈ places (c.tiers o args).env) :
    Decided o args c id f ((c.parse o args).state.flagAt? id) := by
  have hf : (c.afterArgs args).flagAt? id = some f := (h.flagAt?_afterArgs hargs).trans hf
  obtain ⟨g, key, text, hg, -, hbound, hstrings, horigin⟩ := firstBound_of_mem_envTier hid
  rw [hf] at hg
  obtain rfl := Option.some.inj hg
  obtain ⟨v, hv, hvalue⟩ :=
    flagAt?_carryOut_of_mem (congrArg Attempt.failure h.env_stage) hf hid horigin
  rw [h.env_stage] at hv
  rw [h.flagAt?_parse (not_mem_configTier (h.mem_provided_afterEnv (.inr hid))), hv]
  exact .byEnv hid hbound hstrings hvalue

theorem decided_by_config (h : Staged o args c) (hf : c.flagAt? id = some f)
    (hargs : id ∉ places (c.tiers o args).args) (henv : id ∉ places (c.tiers o args).env)
    (hid : id ∈ places (c.tiers o args).config) :
    Decided o args c id f ((c.parse o args).state.flagAt? id) := by
  have hf : (c.afterEnv o args).flagAt? id = some f := by
    rw [h.flagAt?_afterEnv henv, h.flagAt?_afterArgs hargs, hf]
  obtain ⟨g, path, source, hg, -, hpath, hopen, hstrings, horigin⟩ := opened_of_mem_configTier hid
  obtain ⟨v, hv, hvalue⟩ :=
    flagAt?_carryOut_of_mem h.config_accepted hf hid fun a ha _ => horigin a ha
  rw [h.flagAt?_parse_eq, hv]
  have hindex := keyIndex_of_shape (shape_afterEnv o args c) o.rules
  have hmeans (name : String) : (c.afterEnv o args).means (KeyIndex.ofChain o.rules
      (c.afterEnv o args)) id name = c.means (KeyIndex.ofChain o.rules c) id name := by
    rw [hindex, means_of_shape (shape_afterEnv o args c)]
  simp only [hmeans] at hstrings
  exact .byConfig hid hpath hopen hstrings hvalue

theorem decided (h : Staged o args c) (hf : c.flagAt? id = some f) :
    Decided o args c id f ((c.parse o args).state.flagAt? id) := by
  by_cases hargs : id ∈ places (c.tiers o args).args
  · exact h.decided_by_args hf hargs
  · by_cases henv : id ∈ places (c.tiers o args).env
    · exact h.decided_by_env hf hargs henv
    · by_cases hconfig : id ∈ places (c.tiers o args).config
      · exact h.decided_by_config hf hargs henv hconfig
      · rw [h.flagAt?_parse hconfig, h.flagAt?_afterEnv henv, h.flagAt?_afterArgs hargs, hf]
        exact .byNone hargs henv hconfig

end Staged

/-- A parse that succeeds goes through its tiers in order, and every flag ends as the one tier that
assigns it leaves it. -/
theorem tierOrder_of_parse (h : (c.parse o args).failure = none) : TierOrder o args c := by
  have hstaged := staged_of_parse h
  refine ⟨hstaged, fun id => flagAt?_of_mem_tiers, hstaged.disjoint_tiers,
    fun id => hstaged.not_mem_of_mem_provided, fun id f hf => hstaged.decided hf⟩

/-- Two lists in a set under two more. -/
def sampleChain : Chain :=
  let list (name : String) : Flag :=
    .ofDecl { names := { long := some name }, value := .ofDefaults .string false [] }
  { own := { name := "app", flags := [list "tag", list "host"] }
    ancestors := [{ name := "base", flags := [list "file", list "level"] }] }

/-- An environment with two variables and a configuration file with four lines. -/
def sampleOptions : ParseOptions :=
  { envEnabled := true
    configFile := some (.path "app.conf")
    env := fun key => if key = "HOST" ∨ key = "TAG" then some "h1".toUTF8.toList else none
    openFile := fun _ => .opened (.ofString "host c\ntag c\nfile x\nFILE y\n") }

theorem tierOrder_of_parse_sample :
    let args := ["--tag", "a", "--tag=b", "rest"]
    (sampleChain.parse sampleOptions args).failure = none ∧
      places (sampleChain.tiers sampleOptions args).args = [⟨0, 0⟩, ⟨0, 0⟩] ∧
      places (sampleChain.tiers sampleOptions args).env = [⟨0, 1⟩] ∧
      places (sampleChain.tiers sampleOptions args).config = [⟨1, 0⟩, ⟨1, 0⟩] ∧
      TierOrder sampleOptions args sampleChain := by
  refine ⟨by decide +kernel, by decide +kernel, by decide +kernel, by decide +kernel, ?_⟩
  exact tierOrder_of_parse (by decide +kernel)

end LayeredFlags.Chain
