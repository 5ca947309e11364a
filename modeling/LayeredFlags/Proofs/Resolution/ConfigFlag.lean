import LayeredFlags.Proofs.Arguments.Forms
import LayeredFlags.Proofs.Resolution.Reordering

/-!
# The configuration file named by a flag

The path of the configuration file may be told outright, or be the value of a flag that holds a
text.  Where nothing else gives that flag a value but the configuration itself, the two parses go
the same way: they fail alike, and they leave the same chain but for that flag.
-/

namespace LayeredFlags

/-! ## Runs on changed states -/

namespace Attempt

variable {σ α : Type} {P : σ → Prop} {m : σ → σ}

/-- The attempt with its state changed. -/
def map (m : σ → σ) (a : Attempt σ) : Attempt σ :=
  { a with state := m a.state }

theorem andThen_map {a : Attempt σ} {next next' : σ → Attempt σ}
    (h : a.failure = none → next' (m a.state) = (next a.state).map m) :
    (a.map m).andThen next' = (a.andThen next).map m := by
  obtain ⟨s, _ | e⟩ := a
  · exact h rfl
  · rfl

/-- Steps that go the same way from a changed state lead to the changed state. -/
theorem each_map_state {step step' : α → σ → Attempt σ} {xs : List α}
    (hkept : ∀ a ∈ xs, ∀ s, P s → P (step a s).state)
    (hstep : ∀ a ∈ xs, ∀ s, P s → step' a (m s) = (step a s).map m) {s : σ} (hs : P s) :
    each step' xs (m s) = (each step xs s).map m := by
  induction xs generalizing s with
  | nil => rfl
  | cons x xs ih =>
    rw [List.forall_mem_cons] at hkept hstep
    rw [each_cons, each_cons, hstep.1 s hs]
    exact andThen_map fun _ => ih hkept.2 hstep.2 (hkept.1 s hs)

end Attempt

theorem Decoded.feed_map {σ : Type} {P : σ → Prop} {m : σ → σ} {d : Decoded}
    {receive receive' : String × String → σ → Attempt σ}
    (hkept : ∀ pair s, P s → P (receive pair s).state)
    (hstep : ∀ pair s, P s → receive' pair (m s) = (receive pair s).map m) {s : σ} (hs : P s) :
    d.feed receive' (m s) = (d.feed receive s).map m := by
  unfold feed
  rw [Attempt.each_map_state (fun pair _ => hkept pair) (fun pair _ => hstep pair) hs]
  exact Attempt.andThen_map fun _ => rfl

/-! ## Flags that hold a text -/

/-- The flag holds a text. -/
def Flag.HoldsText (f : Flag) : Prop :=
  ∃ s initial, f.value = .scalar .string (.string s) initial

/-- A flag that holds a text takes every string. -/
theorem Flag.HoldsText.exists_assign {f : Flag} (h : f.HoldsText) (raw : String) (o : Origin) :
    ∃ g, f.assign raw o = .ok g ∧ g.HoldsText ∧ g.text = raw ∧ g.isSet = true := by
  obtain ⟨s, initial, hv⟩ := h
  have hassign : f.value.assign raw = .ok (.scalar .string (.string raw) initial) := by
    rw [hv]
    rfl
  exact ⟨_, Flag.assign_eq_ok_iff.2 ⟨_, hassign, rfl⟩, ⟨raw, initial, rfl⟩, rfl, rfl⟩

/-- The options with the configuration file at a path. -/
def ParseOptions.byPath (path : String) (o : ParseOptions) : ParseOptions :=
  { o with configFile := some (.path path) }

/-- The options with the configuration file that a flag names. -/
def ParseOptions.byFlag (name : String) (o : ParseOptions) : ParseOptions :=
  { o with configFile := some (.flag name) }

namespace Chain

variable {c d : Chain} {id j : FlagId} {f g : Flag} {o : ParseOptions} {args : List String}
  {name path : String}

/-! ## Assignments to other flags -/

theorem replace_replace (c : Chain) (id : FlagId) (f g : Flag) :
    (c.replace id f).replace id g = c.replace id g := by
  apply eq_of_sets
  rw [sets_replace, sets_replace, sets_replace, List.modify_modify_eq]
  congr 1
  funext s
  exact congrArg (fun flags => { s with flags }) (List.set_set f)

theorem assign_replace (h : j ≠ id) (raw : String) (origin : Origin) :
    (c.replace id g).assign j raw origin = (c.assign j raw origin).map (·.replace id g) := by
  unfold assign
  rw [flagAt?_replace_of_ne h]
  cases c.flagAt? j with
  | none => rfl
  | some f =>
    cases hf : f.assign raw origin with
    | error e => simp only [hf, Attempt.map]
    | ok f' => simp only [hf, Attempt.map, replace_comm h]

theorem carryOut_replace {as : List TierAssignment} (h : id ∉ places as) (c : Chain) :
    carryOut as (c.replace id g) = (carryOut as c).map (·.replace id g) := by
  refine Attempt.each_map_state (m := fun d : Chain => d.replace id g) (P := fun _ => True)
    (fun _ _ _ _ => trivial) (fun a ha d _ => ?_) trivial
  have hne : a.id ≠ id := by
    rintro rfl
    exact h (List.mem_map_of_mem ha)
  exact assign_replace hne a.raw a.origin

/-! ## The command line -/

/-- An argument that does nothing but set a flag which the other arguments leave alone makes no
difference to them. -/
theorem readArgs_replace {arg raw : String} (hid : id ∉ places (c.argTier args))
    (hplan : c.plan (arg :: args) = (c.plan args).after [⟨id, raw⟩])
    (hassign : c.assign id raw .args = ⟨c.replace id g, none⟩) :
    c.readArgs (arg :: args) = ⟨(c.afterArgs args).replace id g, (c.readArgs args).outcome⟩ := by
  have hrest := carryOut_replace (g := g) hid c
  unfold argTier at hrest
  rw [← assignAll_eq_carryOut, ← assignAll_eq_carryOut] at hrest
  have hfirst : assignAll .args ([⟨id, raw⟩] ++ (c.plan args).assignments) c =
      (c.assign id raw .args).andThen (assignAll .args (c.plan args).assignments) := rfl
  rw [hassign, Attempt.andThen_mk_none, hrest] at hfirst
  unfold afterArgs
  rw [readArgs_eq_carryOut, readArgs_eq_carryOut, hplan]
  unfold ArgPlan.carryOut ArgPlan.after
  rw [hfirst]
  obtain ⟨d, _ | e⟩ := assignAll .args (c.plan args).assignments c <;> rfl

/-! ## The environment -/

/-- A flag that is set is not looked at, and one for which no variable counts might as well be. -/
theorem envBindings_replace {x : KeyIndex} {env : String → Option (List UInt8)}
    (hf : c.flagAt? id = some f) (hshape : g.shape = f.shape) (hg : g.isSet = true)
    (hnone : consultEnv env f.display (x.keysAt id) = .ok none) :
    (c.replace id g).envBindings x env = c.envBindings x env := by
  have hplaces : (c.replace id g).located.map Prod.fst = c.located.map Prod.fst :=
    map_located_of_shape (shape_replace hf hshape) fun _ _ _ _ => rfl
  have hunset : (c.replace id g).located.filter (!·.2.isSet) =
      (c.located.filter (!·.2.isSet)).filter (·.1 ≠ id) := by
    rw [located_eq_filterMap (c.replace id g), located_eq_filterMap c, hplaces]
    simp only [List.filter_filterMap]
    -- at `id` nothing is left on either side, and the other flags are the same
    refine List.filterMap_congr fun i _ => ?_
    by_cases hi : i = id
    · subst hi
      rw [flagAt?_replace_self hf, hf]
      cases hset : f.isSet <;> simp [Option.filter, hg, hset]
    · rw [flagAt?_replace_of_ne hi]
      cases c.flagAt? i with
      | none => rfl
      | some h => cases hset : h.isSet <;> simp [Option.filter, hset, hi]
  change bindingsOf x env ((c.replace id g).located.filter (!·.2.isSet)) =
    bindingsOf x env (c.located.filter (!·.2.isSet))
  rw [hunset]
  refine bindingsOf_filter fun q hq hid => ?_
  have hid : q.1 = id := by simpa using hid
  have hq : c.flagAt? q.1 = some q.2 := mem_located_iff.1 (List.mem_filter.1 hq).1
  rw [hid, hf] at hq
  rw [hid, ← Option.some.inj hq]
  exact hnone

/-- The environment tier leaves a flag alone for which no variable counts, and goes the same way
where that flag is set. -/
theorem fillFromEnv_replace {x : KeyIndex} (hf : c.flagAt? id = some f)
    (hshape : g.shape = f.shape) (hg : g.isSet = true)
    (hnone : consultEnv o.env f.display (x.keysAt id) = .ok none) :
    (c.fillFromEnv o x).state.flagAt? id = some f ∧
      (c.replace id g).fillFromEnv o x = (c.fillFromEnv o x).map (·.replace id g) := by
  have hbindings := envBindings_replace hf hshape hg hnone
  have hfree {bs : List EnvBinding} (hbs : c.envBindings x o.env = .ok bs) :
      id ∉ places (bindingTier o.envSplit bs) := by
    intro hmem
    obtain ⟨a, ha, rfl⟩ := List.mem_map.1 hmem
    obtain ⟨b, hb, hid, -⟩ := exists_of_mem_bindingTier ha
    obtain ⟨f', hf', -, hfound⟩ := unset_of_envBindings hbs hb
    rw [← hid, hf] at hf'
    rw [← hid, ← Option.some.inj hf', hnone] at hfound
    cases hfound
  unfold fillFromEnv
  rw [hbindings]
  split_ifs
  · cases x.clash? with
    | some e => exact ⟨hf, rfl⟩
    | none =>
      cases hbs : c.envBindings x o.env with
      | error e => exact ⟨hf, rfl⟩
      | ok bs =>
        simp only [← carryOut_bindingTier]
        exact ⟨(flagAt?_carryOut_of_not_mem (hfree hbs)).trans hf, carryOut_replace (hfree hbs) c⟩
  · exact ⟨hf, rfl⟩

/-! ## The configuration -/

/-- The flag at a place holds a text, and `g` has its names. -/
def TextAt (id : FlagId) (g : Flag) (c : Chain) : Prop :=
  ∃ f, c.flagAt? id = some f ∧ f.HoldsText ∧ g.shape = f.shape

theorem TextAt.assign_self (h : c.TextAt id g) (raw : String) (origin : Origin) :
    ∃ f, c.assign id raw origin = ⟨c.replace id f, none⟩ ∧ (c.replace id f).TextAt id g := by
  obtain ⟨f, hf, htext, hshape⟩ := h
  obtain ⟨f', hf', htext', -⟩ := htext.exists_assign raw origin
  refine ⟨f', assign_eq_mk_none_iff.2 ⟨f, f', hf, hf', rfl⟩, f', flagAt?_replace_self hf,
    htext', ?_⟩
  rw [hshape, Flag.shape_of_assign hf']

theorem TextAt.assign (h : c.TextAt id g) (j : FlagId) (raw : String) (origin : Origin) :
    (c.assign j raw origin).state.TextAt id g := by
  by_cases hj : j = id
  · subst hj
    obtain ⟨f, hassign, htext⟩ := h.assign_self raw origin
    rw [hassign]
    exact htext
  · obtain ⟨f, hf, hrest⟩ := h
    exact ⟨f, (flagAt?_assign_of_ne (Ne.symm hj) raw origin).trans hf, hrest⟩

theorem TextAt.receive (h : d.TextAt id g) (o : ParseOptions) (x : KeyIndex) (path : String)
    (provided : List FlagId) (pair : String × String) :
    (receive o x path provided pair d).state.TextAt id g := by
  obtain ⟨-, e⟩ | ⟨p, e⟩ | ⟨j, -, -, e⟩ := receive_cases (c := d) rfl o x path provided pair <;>
    rw [e]
  · exact h
  · exact h
  · exact h.assign j pair.2 (.config path)

/-- A pair goes the same way whether or not a flag that holds a text was provided: if it is for that
flag it is taken in one run and passed over in the other, and else it is for both or for none. -/
theorem receive_replace {x : KeyIndex} {provided provided' : List FlagId} (h : d.TextAt id g)
    (hid : id ∉ provided) (hid' : id ∈ provided')
    (hother : ∀ j ≠ id, j ∈ provided' ↔ j ∈ provided) (pair : String × String) :
    receive o x path provided' pair (d.replace id g) =
      (receive o x path provided pair d).map (·.replace id g) := by
  have hshape : (d.replace id g).shape = d.shape := by
    obtain ⟨f, hf, -, hshape⟩ := h
    exact shape_replace hf hshape
  unfold receive
  rw [resolveName_of_shape hshape]
  cases d.resolveName x pair.1 with
  | error e => rfl
  | ok found =>
    cases found with
    | none => rfl
    | some j =>
      simp only [List.contains_iff_mem]
      by_cases hj : j = id
      · subst hj
        -- what one run writes to the flag and the other does not is replaced anyway
        obtain ⟨f, hassign, -⟩ := h.assign_self pair.2 (.config path)
        rw [if_pos hid', if_neg hid, hassign, Attempt.map, replace_replace]
      · simp only [hother j hj]
        split_ifs
        · rfl
        · exact assign_replace hj pair.2 (.config path)

theorem fillFromFile_replace {x : KeyIndex} (hf : c.flagAt? id = some f) (htext : f.HoldsText)
    (hunset : f.isSet = false) (hshape : g.shape = f.shape) (hg : g.isSet = true) (path : String) :
    (c.replace id g).fillFromFile o x path = (c.fillFromFile o x path).map (·.replace id g) := by
  have hid : id ∉ c.provided := not_mem_provided hf hunset
  have hid' : id ∈ (c.replace id g).provided :=
    mem_provided_iff.2 ⟨g, flagAt?_replace_self hf, hg⟩
  have hother (j : FlagId) (hj : j ≠ id) : j ∈ (c.replace id g).provided ↔ j ∈ c.provided := by
    rw [mem_provided_iff, mem_provided_iff, flagAt?_replace_of_ne hj]
  unfold fillFromFile
  cases o.openFile path with
  | missing => rfl
  | refused reason => rfl
  | opened source =>
    exact Decoded.feed_map (m := fun d : Chain => d.replace id g)
      (P := fun d : Chain => d.TextAt id g) (fun pair d hd => hd.receive o x path c.provided pair)
      (fun pair d hd => receive_replace hd hid hid' hother pair) ⟨f, hf, htext, hshape⟩

/-- A file is looked for at the same place, told outright or as the text of the flag. -/
theorem fillFromConfig_replace {x : KeyIndex} (hname : c.locateName name = some id)
    (hf : c.flagAt? id = some f) (htext : f.HoldsText) (hunset : f.isSet = false)
    (hshape : g.shape = f.shape) (hg : g.isSet = true) (hpath : g.text = path) (hne : path ≠ "") :
    (c.replace id g).fillFromConfig (o.byFlag name) x =
      (c.fillFromConfig (o.byPath path) x).map (·.replace id g) := by
  have hfile : (c.replace id g).configPath (o.byFlag name) = .ok (some path) := by
    have hlocate : (c.replace id g).locateName name = some id :=
      (locateName_of_shape (shape_replace hf hshape) name).trans hname
    simp only [configPath, ParseOptions.byFlag, valueOf?, find?, hlocate, Option.bind_some,
      flagAt?_replace_self hf, Option.map_some, hpath, if_neg hne]
  unfold fillFromConfig
  rw [hfile]
  exact fillFromFile_replace (o := o) hf htext hunset hshape hg path

/-! ## Parses -/

theorem fill_replace (hname : c.locateName name = some id) (hf : c.flagAt? id = some f)
    (htext : f.HoldsText) (hunset : f.isSet = false) (hshape : g.shape = f.shape)
    (hg : g.isSet = true) (hpath : g.text = path) (hne : path ≠ "")
    (hnone : consultEnv o.env f.display (o.rules.keys f) = .ok none) :
    (c.replace id g).fill (o.byFlag name) = (c.fill (o.byPath path)).map (·.replace id g) := by
  have hindex : KeyIndex.ofChain o.rules (c.replace id g) = KeyIndex.ofChain o.rules c :=
    keyIndex_of_shape (shape_replace hf hshape) o.rules
  rw [← KeyIndex.keysAt_ofChain o.rules hf] at hnone
  obtain ⟨hkept, henv⟩ := fillFromEnv_replace hf hshape hg hnone
  have hname' : (c.fillFromEnv o (KeyIndex.ofChain o.rules c)).state.locateName name = some id :=
    (locateName_of_shape (shape_fillFromEnv ..) name).trans hname
  have hfill (o' : ParseOptions) (d : Chain) (hrules : o'.rules = o.rules)
      (henv : d.fillFromEnv o' (KeyIndex.ofChain o'.rules d) =
        d.fillFromEnv o (KeyIndex.ofChain o.rules d)) :
      d.fill o' = (d.fillFromEnv o (KeyIndex.ofChain o.rules d)).andThen
        (fillFromConfig o' (KeyIndex.ofChain o.rules d)) := by
    rw [fill_eq, henv, hrules]
  rw [hfill (o.byFlag name) _ rfl rfl, hfill (o.byPath path) _ rfl rfl, hindex, henv]
  exact Attempt.andThen_map fun _ =>
    fillFromConfig_replace hname' hkept htext hunset hshape hg hpath hne

theorem finish_replace (leftovers : List String) (c : Chain) :
    finish leftovers (c.replace id g) = (finish leftovers c).map (·.replace id g) := by
  obtain ⟨depth, index⟩ := id
  cases depth <;> rfl

/-- A parse that finds the configuration by a flag goes the way of one that is told the path, if a
first argument gives the flag that path, and the other arguments and the environment give the flag
nothing. -/
theorem parse_byFlag {l : String} (hw : c.WellNamed) (hparsed : c.own.parsed = false)
    (hf : c.flagAt? id = some f) (htext : f.HoldsText) (hunset : f.isSet = false)
    (hlong : c.locateLong l = some id) (hname : c.locateName name = some id)
    (hargs : id ∉ places (c.argTier args))
    (hnone : consultEnv o.env f.display (o.rules.keys f) = .ok none) (hne : path ≠ "") :
    ∃ g, f.assign path .args = .ok g ∧
      c.parse (o.byFlag name) ((FlagNames.dashedLong l ++ "=" ++ path) :: args) =
        (c.parse (o.byPath path) args).map (·.replace id g) := by
  obtain ⟨g, hassign, -, hpath, hg⟩ := htext.exists_assign path .args
  refine ⟨g, hassign, ?_⟩
  have hshape := Flag.shape_of_assign hassign
  have hbool : c.isBoolAt id = true → path ≠ "" := fun _ => hne
  have hread := readArgs_replace hargs (plan_long_value hw hlong hbool args)
    (assign_eq_mk_none_iff.2 ⟨f, g, hf, hassign, rfl⟩)
  have hafter : (c.afterArgs args).flagAt? id = some f := by
    unfold afterArgs
    rw [readArgs_eq_carryOut, ArgPlan.chain_carryOut, assignAll_eq_carryOut]
    exact (flagAt?_carryOut_of_not_mem hargs).trans hf
  have hname' : (c.afterArgs args).locateName name = some id :=
    (locateName_of_shape (shape_afterArgs args c) name).trans hname
  unfold parse
  rw [hparsed, hread]
  -- from here on both parses differ by the flag only, if the arguments are read at all
  unfold afterArgs at hafter hname' ⊢
  generalize c.readArgs args = r at hafter hname' ⊢
  obtain ⟨d, e | leftovers⟩ := r
  · rfl
  · have hfill : (d.replace id g).fill (o.byFlag name) =
        (d.fill (o.byPath path)).map (·.replace id g) :=
      fill_replace hname' hafter htext hunset hshape hg hpath hne hnone
    change ((d.replace id g).fill (o.byFlag name)).andThen (finish leftovers) = _
    rw [hfill]
    exact Attempt.andThen_map fun _ => finish_replace leftovers _

end Chain

end LayeredFlags
