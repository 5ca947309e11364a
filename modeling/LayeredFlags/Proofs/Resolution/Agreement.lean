import LayeredFlags.Proofs.Arguments.Forms
import LayeredFlags.Proofs.Chain.Lookup
import LayeredFlags.Proofs.Resolution.Stages
import LayeredFlags.Proofs.Text.Separated
import LayeredFlags.Proofs.Text.Utf8

/-!
# Agreement of the tiers

Some strings for one flag do the same whichever tier they come from: as arguments behind its long
name, as the elements of one variable, or as pairs of a configuration.  Each parse assigns them to
the flag in their order and does nothing else, so the flag ends with the same value, or the same
string is refused for the same reason.
-/

namespace LayeredFlags

/-! ## Strings for one flag -/

/-- A value takes all of some strings, or there is a first one that it refuses. -/
theorem Value.assignEach_cases (raws : List String) (v : Value) :
    (∃ w, v.assignEach raws = .ok w) ∨
      ∃ done raw todo w problem, raws = done ++ raw :: todo ∧ v.assignEach done = .ok w ∧
        w.assign raw = .error problem := by
  induction raws generalizing v with
  | nil => exact .inl ⟨v, rfl⟩
  | cons raw rest ih =>
    have hcons (raws : List String) : v.assignEach (raw :: raws) =
        (v.assign raw).bind (assignEach raws) := rfl
    cases hv : v.assign raw with
    | error problem => exact .inr ⟨[], raw, rest, v, problem, rfl, rfl, hv⟩
    | ok w =>
      obtain ⟨u, hu⟩ | ⟨done, raw', todo, u, problem, rfl, hu, hraw⟩ := ih w
      · exact .inl ⟨u, by rw [hcons, hv]; exact hu⟩
      · exact .inr ⟨raw :: done, raw', todo, u, problem, rfl, by rw [hcons, hv]; exact hu, hraw⟩

namespace Chain

variable {c d : Chain} {id : FlagId} {f : Flag} {v : Value} {raws : List String}

/-- Strings that a flag takes are assigned to it, and nothing happens to other flags. -/
theorem assignAll_of_assignEach (hf : c.flagAt? id = some f) (h : f.value.assignEach raws = .ok v)
    (o : Origin) :
    ∃ d g, assignAll o (raws.map (.mk id)) c = ⟨d, none⟩ ∧ d.flagAt? id = some g ∧
      g.value = v ∧ g.names = f.names ∧ (raws ≠ [] → g = f.given v o) ∧
      ∀ id', id' ≠ id → d.flagAt? id' = c.flagAt? id' := by
  induction raws generalizing c f with
  | nil =>
    cases h
    exact ⟨c, f, rfl, hf, rfl, rfl, fun h => absurd rfl h, fun _ _ => rfl⟩
  | cons raw rest ih =>
    cases hw : f.value.assign raw with
    | error problem =>
      rw [Value.assignEach, hw] at h
      cases h
    | ok w =>
      rw [Value.assignEach, hw] at h
      have hassign : c.assign id raw o = ⟨c.replace id (f.given w o), none⟩ := by
        simp only [assign, hf, Flag.assign, hw]
        rfl
      obtain ⟨d, g, hd, hg, hvalue, hnames, hgiven, hother⟩ :=
        ih (c := c.replace id (f.given w o)) (flagAt?_replace_self hf) h
      refine ⟨d, g, ?_, hg, hvalue, hnames, fun _ => ?_, fun id' hid => ?_⟩
      · have hcons : assignAll o ((raw :: rest).map (.mk id)) c =
            (c.assign id raw o).andThen (assignAll o (rest.map (.mk id))) := rfl
        rw [hcons, hassign, Attempt.andThen_mk_none, hd]
      · -- every assignment overwrites what the one before it recorded, so the last one shows
        cases rest with
        | nil =>
          cases h
          cases hd
          exact Option.some.inj (hg.symm.trans (flagAt?_replace_self hf))
        | cons raw' rest => exact hgiven (List.cons_ne_nil raw' rest)
      · rw [hother id' hid, flagAt?_replace_of_ne hid]

/-- A string that a flag refuses ends the assignments. -/
theorem failure_assignAll_of_refused {raw : String} {problem : ValueProblem} (todo : List String)
    (hf : c.flagAt? id = some f) (h : f.value.assignEach raws = .ok v)
    (hraw : v.assign raw = .error problem) (o : Origin) :
    (assignAll o ((raws ++ raw :: todo).map (.mk id)) c).failure =
      some (.valueRejected f.display raw problem) := by
  obtain ⟨d, g, hd, hg, rfl, hnames, -⟩ := assignAll_of_assignEach hf h o
  have hsplit : assignAll o ((raws ++ raw :: todo).map (.mk id)) c =
      (assignAll o (raws.map (.mk id)) c).andThen (assignAll o ((raw :: todo).map (.mk id))) := by
    rw [List.map_append]
    exact Attempt.each_append ..
  have hdisplay : g.display = f.display := congrArg FlagNames.display hnames
  have hassign : d.assign id raw o = ⟨d, some (.valueRejected f.display raw problem)⟩ := by
    simp only [assign, hg, Flag.assign, hraw, hdisplay]
  have hcons : assignAll o ((raw :: todo).map (.mk id)) d =
      (d.assign id raw o).andThen (assignAll o (todo.map (.mk id))) := rfl
  rw [hsplit, hd, Attempt.andThen_mk_none, hcons, hassign]
  rfl

/-! ## One tier alone -/

/-- A flag of the chain's own set that waits for strings under its long name: nothing was parsed,
and nothing was assigned to it. -/
structure Awaits (c : Chain) (i : Nat) (f : Flag) (l : String) : Prop where
  not_parsed : c.own.parsed = false
  no_compat : c.own.compat = false
  flag : c.flagAt? ⟨0, i⟩ = some f
  unset : f.isSet = false
  long : f.names.long = some l

/-- Strings that a flag can be given in every tier: a switch takes no empty one from the command
line, and as a variable they must make up a text that is not empty and can be divided again. -/
structure Writable (f : Flag) (raws : List String) : Prop where
  some_raw : raws ≠ []
  not_empty : raws ≠ [""]
  not_bare : f.isBool = true → ∀ raw ∈ raws, raw ≠ ""
  joinable : Text.Joinable raws

/-- Options that leave everything to the command line. -/
structure ArgsAlone (o : ParseOptions) : Prop where
  env_disabled : o.envEnabled = false
  no_config : o.configFile = none

/-- Options that leave everything to the environment, which holds strings, joined to one, under the
key of a long name and nothing else. -/
structure EnvAlone (o : ParseOptions) (l : String) (sep : Char) (raws : List String) : Prop where
  enabled : o.envEnabled = true
  divided : o.envSplit = some (String.singleton sep)
  bound : o.env (o.rules.key l) = some (Text.Utf8.encode (Text.joined sep raws).toList)
  unbound : ∀ key, key ≠ o.rules.key l → o.env key = none
  no_config : o.configFile = none

/-- Options that leave everything to a configuration file, from which strings are decoded under a
long name. -/
structure ConfigAlone (c : Chain) (o : ParseOptions) (l path : String) (source : Source)
    (raws : List String) : Prop where
  env_disabled : o.envEnabled = false
  path_eq : c.configPath o = .ok (some path)
  opened : o.openFile path = .opened source
  decoded : o.decoder source = ⟨raws.map (l, ·), none⟩

variable {i : Nat} {l : String} {o : ParseOptions}

theorem fillFromEnv_of_disabled (h : o.envEnabled = false) (x : KeyIndex) (c : Chain) :
    c.fillFromEnv o x = ⟨c, none⟩ := by
  unfold fillFromEnv
  rw [h]
  rfl

theorem fillFromConfig_of_none (h : o.configFile = none) (x : KeyIndex) (c : Chain) :
    c.fillFromConfig o x = ⟨c, none⟩ := by
  unfold fillFromConfig configPath
  rw [h]

/-! ### The command line -/

/-- Strings behind a long name and an equals sign are planned one by one. -/
theorem plan_long_values (hw : c.WellNamed) (hc : c.Awaits i f l)
    (hraws : f.isBool = true → ∀ raw ∈ raws, raw ≠ "") :
    c.plan (raws.map (FlagNames.dashedLong l ++ "=" ++ ·)) =
      ⟨raws.map (.mk ⟨0, i⟩), .ok []⟩ := by
  have hlocate : c.locateLong l = some ⟨0, i⟩ :=
    locateLong_of_wellNamed hw hc.no_compat hc.flag hc.long fun _ hs => absurd hs List.not_mem_nil
  have hbool : c.isBoolAt ⟨0, i⟩ = f.isBool := by
    unfold isBoolAt
    rw [hc.flag]
    rfl
  induction raws with
  | nil => rfl
  | cons raw rest ih =>
    have hraw : c.isBoolAt ⟨0, i⟩ = true → raw ≠ "" := fun hb =>
      hraws (hbool ▸ hb) raw (List.mem_cons_self ..)
    rw [List.map_cons, plan_long_value hw hlocate hraw,
      ih fun hb raw hr => hraws hb raw (List.mem_cons_of_mem _ hr)]
    rfl

theorem parse_args_alone (hw : c.WellNamed) (hc : c.Awaits i f l) (ho : ArgsAlone o)
    (hraws : f.isBool = true → ∀ raw ∈ raws, raw ≠ "") :
    c.parse o (raws.map (FlagNames.dashedLong l ++ "=" ++ ·)) =
      (assignAll .args (raws.map (.mk ⟨0, i⟩)) c).andThen (finish []) := by
  have hread := readArgs_eq_carryOut (raws.map (FlagNames.dashedLong l ++ "=" ++ ·)) c
  rw [plan_long_values hw hc hraws] at hread
  have hfill (d : Chain) : d.fill o = ⟨d, none⟩ := by
    rw [fill_eq, fillFromEnv_of_disabled ho.env_disabled, Attempt.andThen_mk_none,
      fillFromConfig_of_none ho.no_config]
  cases hfail : (assignAll .args (raws.map (.mk ⟨0, i⟩)) c).failure with
  | none =>
    rw [ArgPlan.carryOut_of_none hfail] at hread
    rw [parse_of_readArgs hc.not_parsed hread, hfill, Attempt.andThen_mk_none,
      Attempt.andThen_of_none hfail]
  | some e =>
    rw [ArgPlan.carryOut_of_some hfail] at hread
    unfold parse
    rw [if_neg (by simp [hc.not_parsed]), hread, Attempt.andThen_of_some hfail]
    exact congrArg (Attempt.mk _) hfail.symm

/-! ### The environment -/

theorem parse_env_alone {sep : Char} (hc : c.Awaits i f l) (ho : EnvAlone o l sep raws)
    (hapart : c.KeysApart o.rules) (hsep : sep ≠ '\\') (hraws : Writable f raws) :
    c.parse o [] =
      (assignAll (.env (o.rules.key l)) (raws.map (.mk ⟨0, i⟩)) c).andThen (finish []) := by
  have hkey : o.rules.key l ∈ o.rules.keys f := by
    simp only [KeyRules.keys, hc.long, Option.map_some]
    split_ifs <;> simp
  have hown := hapart ⟨0, i⟩ f _ hc.flag hkey
  have hbinds : BindsOnly o.env (o.rules.key l) (Text.joined sep raws) :=
    ⟨⟨_, ho.bound, Text.Utf8.decode?_encode _⟩, ho.unbound⟩
  have hbindings := envBindings_of_ownsKey hown hc.unset hbinds
    (Text.joined_ne_empty hraws.some_raw hraws.not_empty)
  have hstrings : envStrings o.envSplit (Text.joined sep raws) = raws := by
    rw [ho.divided]
    exact Text.elements_joined hsep hraws.some_raw hraws.joinable
  have henv : c.fillFromEnv o (KeyIndex.ofChain o.rules c) =
      assignAll (.env (o.rules.key l)) (raws.map (.mk ⟨0, i⟩)) c := by
    unfold fillFromEnv
    rw [if_pos ho.enabled, KeyIndex.clash?_eq_none_iff.2 hapart, hbindings]
    simp only [envAssignments_eq_map]
    exact (Attempt.andThen_mk _).trans (congrArg (fun raws : List String =>
      assignAll (.env (o.rules.key l)) (raws.map (.mk ⟨0, i⟩)) c) hstrings)
  have hfill : c.fill o = assignAll (.env (o.rules.key l)) (raws.map (.mk ⟨0, i⟩)) c := by
    rw [fill_eq, henv, funext (fillFromConfig_of_none ho.no_config (KeyIndex.ofChain o.rules c))]
    exact Attempt.andThen_mk _
  rw [parse_of_readArgs hc.not_parsed rfl, hfill]

/-! ### The configuration -/

theorem parse_config_alone {path : String} {source : Source} (hw : c.WellNamed)
    (hc : c.Awaits i f l) (ho : ConfigAlone c o l path source raws) :
    c.parse o [] =
      (assignAll (.config path) (raws.map (.mk ⟨0, i⟩)) c).andThen (finish []) := by
  have hname : c.locateName l = some ⟨0, i⟩ := by
    have hmem : l ∈ f.names.all := by simp [FlagNames.all, hc.long]
    have hfound := locateName_own hw hc.flag hmem 0
    rwa [dashed_zero] at hfound
  have hunset := not_mem_provided hc.flag hc.unset
  have hfill : c.fill o = assignAll (.config path) (raws.map (.mk ⟨0, i⟩)) c := by
    rw [fill_eq, fillFromEnv_of_disabled ho.env_disabled, Attempt.andThen_mk_none]
    unfold fillFromConfig fillFromFile
    simp only [ho.path_eq, ho.opened, ho.decoded, Decoded.feed, Attempt.andThen_mk]
    refine each_receive_of_resolveName (c := c) ?_ hunset rfl raws
    unfold resolveName
    rw [hname]
  rw [parse_of_readArgs hc.not_parsed rfl, hfill]

/-! ## All tiers alike -/

/-- A parse has given a flag a value from a tier, and has left all other flags as they were. -/
structure Gives (c : Chain) (id : FlagId) (f : Flag) (v : Value) (o : Origin) (a : Attempt Chain) :
    Prop where
  succeeds : a.failure = none
  given : a.state.flagAt? id = some (f.given v o)
  others : ∀ id', id' ≠ id → a.state.flagAt? id' = c.flagAt? id'

/-- What comes of assigning strings to a flag in a parse does not depend on their tier. -/
theorem gives_or_refuses (hf : c.flagAt? id = some f) (hne : raws ≠ []) :
    (∃ v, f.value.assignEach raws = .ok v ∧ ∀ o, c.Gives id f v o
      ((assignAll o (raws.map (.mk id)) c).andThen (finish []))) ∨
    ∃ raw ∈ raws, ∃ problem, ∀ o,
      ((assignAll o (raws.map (.mk id)) c).andThen (finish [])).failure =
        some (.valueRejected f.display raw problem) := by
  obtain ⟨v, hv⟩ | ⟨done, raw, todo, v, problem, rfl, hv, hraw⟩ :=
    Value.assignEach_cases raws f.value
  · refine .inl ⟨v, hv, fun o => ?_⟩
    obtain ⟨d, g, hd, hg, -, -, hgiven, hother⟩ := assignAll_of_assignEach hf hv o
    obtain rfl := hgiven hne
    rw [hd, Attempt.andThen_mk_none]
    exact ⟨rfl, (flagAt?_finish ..).trans hg, fun id' hid =>
      (flagAt?_finish ..).trans (hother id' hid)⟩
  · refine .inr ⟨raw, by simp, problem, fun o => ?_⟩
    have hfail := failure_assignAll_of_refused todo hf hv hraw o
    rw [Attempt.andThen_of_some hfail, hfail]

/-- Strings for one flag give it the same value from the command line, from a variable and from a
configuration, or the same one of them is refused for the same reason. -/
theorem tiers_agree {calls : List Call} {n : Nat} (hc : (Forest.after calls).chain? n = some c)
    (hf : c.Awaits i f l) (hraws : Writable f raws) {sep : Char} (hsep : sep ≠ '\\')
    {byArgs byEnv byConfig : ParseOptions} {path : String} {source : Source}
    (hargs : ArgsAlone byArgs) (henv : EnvAlone byEnv l sep raws)
    (hapart : c.KeysApart byEnv.rules) (hconfig : ConfigAlone c byConfig l path source raws) :
    let args := raws.map (FlagNames.dashedLong l ++ "=" ++ ·)
    (∃ v, f.value.assignEach raws = .ok v ∧
      c.Gives ⟨0, i⟩ f v .args (c.parse byArgs args) ∧
      c.Gives ⟨0, i⟩ f v (.env (byEnv.rules.key l)) (c.parse byEnv []) ∧
      c.Gives ⟨0, i⟩ f v (.config path) (c.parse byConfig [])) ∨
    ∃ raw ∈ raws, ∃ problem, ∀ a ∈ [c.parse byArgs args, c.parse byEnv [], c.parse byConfig []],
      a.failure = some (.valueRejected f.display raw problem) := by
  intro args
  have hw := wellNamed_of_history hc
  rw [parse_args_alone hw hf hargs hraws.not_bare, parse_env_alone hf henv hapart hsep hraws,
    parse_config_alone hw hf hconfig]
  obtain ⟨v, hv, hgives⟩ | ⟨raw, hmem, problem, hrefuses⟩ :=
    gives_or_refuses hf.flag hraws.some_raw
  · exact .inl ⟨v, hv, hgives _, hgives _, hgives _⟩
  · refine .inr ⟨raw, hmem, problem, ?_⟩
    simp only [List.forall_mem_cons, hrefuses, List.not_mem_nil, false_implies, implies_true,
      and_self]

/-- An environment with one variable, and a configuration with three pairs of one name. -/
def sampleSupply : ParseOptions × ParseOptions :=
  ({ envEnabled := true
     envSplit := some ","
     env := fun key => if key = "TAG" then some "a\\,b,,c\\".toUTF8.toList else none },
   { configFile := some (.path "app.conf")
     openFile := fun _ => .opened (.ofString "")
     decoder := fun _ => ⟨[("tag", "a,b"), ("tag", ""), ("tag", "c\\")], none⟩ })

theorem tiers_agree_sample :
    let raws := ["a,b", "", "c\\"]
    let f : Flag :=
      .ofDecl { names := { long := some "tag" }, value := .ofDefaults .string false [] }
    let args := ["--tag=a,b", "--tag=", "--tag=c\\"]
    (Forest.after sampleHistory).chain? 0 = some grownChain ∧ grownChain.Awaits 0 f "tag" ∧
      Writable f raws ∧ ArgsAlone {} ∧ EnvAlone sampleSupply.1 "tag" ',' raws ∧
      grownChain.KeysApart sampleSupply.1.rules ∧
      ConfigAlone grownChain sampleSupply.2 "tag" "app.conf" (.ofString "") raws ∧
      ((∃ v, f.value.assignEach raws = .ok v ∧
        grownChain.Gives ⟨0, 0⟩ f v .args (grownChain.parse {} args) ∧
        grownChain.Gives ⟨0, 0⟩ f v (.env "TAG") (grownChain.parse sampleSupply.1 []) ∧
        grownChain.Gives ⟨0, 0⟩ f v (.config "app.conf") (grownChain.parse sampleSupply.2 [])) ∨
      ∃ raw ∈ raws, ∃ problem, ∀ a ∈ [grownChain.parse {} args,
        grownChain.parse sampleSupply.1 [], grownChain.parse sampleSupply.2 []],
        a.failure = some (.valueRejected f.display raw problem)) := by
  intro raws f args
  have hf : grownChain.Awaits 0 f "tag" := ⟨rfl, rfl, rfl, rfl, rfl⟩
  have hraws : Writable f raws := ⟨by decide, by decide, nofun, by decide +kernel⟩
  have hkey : sampleSupply.1.rules.key "tag" = "TAG" := by decide +kernel
  have henv : EnvAlone sampleSupply.1 "tag" ',' raws := by
    refine ⟨rfl, by decide +kernel, by decide +kernel, fun key hne => ?_, rfl⟩
    rw [hkey] at hne
    exact if_neg hne
  have hapart : grownChain.KeysApart sampleSupply.1.rules :=
    KeyIndex.clash?_eq_none_iff.1 (by decide +kernel)
  have hconfig : ConfigAlone grownChain sampleSupply.2 "tag" "app.conf" (.ofString "") raws :=
    ⟨rfl, rfl, rfl, rfl⟩
  have hargs : raws.map (FlagNames.dashedLong "tag" ++ "=" ++ ·) = args := by decide +kernel
  have halone : ArgsAlone {} := ⟨rfl, rfl⟩
  have hagree := tiers_agree chain?_sampleHistory hf hraws (by decide) halone henv hapart hconfig
  rw [hargs, hkey] at hagree
  exact ⟨chain?_sampleHistory, hf, hraws, halone, henv, hapart, hconfig, hagree⟩

end Chain

end LayeredFlags
