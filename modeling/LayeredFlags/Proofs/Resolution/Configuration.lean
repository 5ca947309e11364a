import LayeredFlags.Proofs.Chain.Assigning
import LayeredFlags.Proofs.Keys.Ownership
import LayeredFlags.Resolution.Configuration

/-!
# Assignments of the configuration tier

The configuration tier assigns the pairs whose flag was not set before the tier, in their order.
Flags that are set keep what they have, whatever becomes of the tier.
-/

namespace LayeredFlags.Chain

variable {c d : Chain} {o : ParseOptions} {x : KeyIndex} {path : String} {provided : List FlagId}

theorem resolveName_of_shape (h : c.shape = d.shape) (x : KeyIndex) (name : String) :
    c.resolveName x name = d.resolveName x name := by
  unfold resolveName
  rw [locateName_of_shape h]

theorem flagAt?_of_reverse {r : KeyRules} {name : String} {id : FlagId}
    (h : (KeyIndex.ofChain r c).reverse name = .ok (some id)) : ∃ f, c.flagAt? id = some f := by
  simp only [KeyIndex.reverse] at h
  have own {entry : KeyEntry} (hentry : entry ∈ (KeyIndex.ofChain r c).owners
      ((KeyIndex.ofChain r c).rules.fold (keyBody name))) : ∃ f, c.flagAt? entry.id = some f := by
    obtain ⟨id, f, hf, rfl⟩ := KeyIndex.mem_entries_ofChain.1 (List.mem_filter.1 hentry).1
    exact ⟨f, hf⟩
  split at h
  next => cases h
  next entry hown =>
    cases h
    exact own (hown ▸ List.mem_singleton_self entry)
  next => cases h

/-- A name means nothing but flags of the chain. -/
theorem flagAt?_of_resolveName {r : KeyRules} {name : String} {id : FlagId}
    (h : c.resolveName (KeyIndex.ofChain r c) name = .ok (some id)) :
    ∃ f, c.flagAt? id = some f := by
  unfold resolveName at h
  cases hname : c.locateName name with
  | none =>
    rw [hname] at h
    exact flagAt?_of_reverse h
  | some id' =>
    rw [hname] at h
    cases h
    obtain ⟨f, hf, -⟩ := flagAt?_of_locate hname
    exact ⟨f, hf⟩

/-- A name in the configuration means the flag at a place. -/
def means (c : Chain) (x : KeyIndex) (id : FlagId) (name : String) : Bool :=
  match c.resolveName x name with
  | .ok (some id') => id' = id
  | _ => false

theorem means_iff {id : FlagId} {name : String} :
    c.means x id name = true ↔ c.resolveName x name = .ok (some id) := by
  unfold means
  cases c.resolveName x name with
  | error e => simp
  | ok found => cases found <;> simp

theorem means_of_shape (h : c.shape = d.shape) (x : KeyIndex) (id : FlagId) (name : String) :
    c.means x id name = d.means x id name := by
  unfold means
  rw [resolveName_of_shape h]

/-- The assignment that a pair of the configuration makes, if it makes one. -/
def configAssignment? (c : Chain) (x : KeyIndex) (path : String) (provided : List FlagId)
    (pair : String × String) : Option TierAssignment :=
  match c.resolveName x pair.1 with
  | .ok (some id) => if provided.contains id then none else some ⟨⟨id, pair.2⟩, .config path⟩
  | _ => none

theorem configAssignment?_eq_some_iff {pair : String × String} {a : TierAssignment} :
    c.configAssignment? x path provided pair = some a ↔
      ∃ id, c.resolveName x pair.1 = .ok (some id) ∧ id ∉ provided ∧
        a = ⟨⟨id, pair.2⟩, .config path⟩ := by
  unfold configAssignment?
  cases c.resolveName x pair.1 with
  | error e => simp
  | ok found =>
    cases found with
    | none => simp
    | some id => simp [eq_comm]

/-- A flag that was not set takes the values of all pairs with a name that means it. -/
theorem rawsAt_configAssignments {id : FlagId} (hid : id ∉ provided)
    (pairs : List (String × String)) :
    rawsAt id (pairs.filterMap (c.configAssignment? x path provided)) =
      (pairs.filter fun pair => c.means x id pair.1).map Prod.snd := by
  induction pairs with
  | nil => rfl
  | cons pair rest ih =>
    rw [List.filter_cons]
    cases ha : c.configAssignment? x path provided pair with
    | none =>
      have hnot : ¬ c.means x id pair.1 = true := by
        intro hm
        rw [configAssignment?_eq_some_iff.2 ⟨id, means_iff.1 hm, hid, rfl⟩] at ha
        cases ha
      rw [List.filterMap_cons_none ha, if_neg hnot, ih]
    | some a =>
      obtain ⟨id', hname, -, rfl⟩ := configAssignment?_eq_some_iff.1 ha
      rw [List.filterMap_cons_some ha, rawsAt_cons]
      by_cases he : id' = id
      · have hm := means_iff.2 (he ▸ hname)
        rw [if_pos hm, if_pos he, List.map_cons, ih]
      · have hnot : ¬ c.means x id pair.1 = true := by
          intro hm
          rw [means_iff, hname] at hm
          cases hm
          exact he rfl
        rw [if_neg hnot, if_neg he, ih]

/-- The assignments of the configuration tier to the flags of a chain. -/
def configTier (o : ParseOptions) (c : Chain) : List TierAssignment :=
  match c.configPath o with
  | .ok (some path) =>
    match o.openFile path with
    | .opened source =>
      (o.decoder source).pairs.filterMap
        (c.configAssignment? (KeyIndex.ofChain o.rules c) path c.provided)
    | _ => []
  | _ => []

/-- What a pair does: nothing, or nothing but a failure, or the assignment that it makes. -/
theorem receive_cases (h : d.shape = c.shape) (o : ParseOptions) (x : KeyIndex) (path : String)
    (provided : List FlagId) (pair : String × String) :
    (c.configAssignment? x path provided pair = none ∧
        receive o x path provided pair d = ⟨d, none⟩) ∨
      (∃ e, receive o x path provided pair d = ⟨d, some e⟩) ∨
      ∃ id, id ∉ provided ∧
        c.configAssignment? x path provided pair = some ⟨⟨id, pair.2⟩, .config path⟩ ∧
        receive o x path provided pair d = d.assign id pair.2 (.config path) := by
  unfold configAssignment? receive
  rw [resolveName_of_shape h]
  cases c.resolveName x pair.1 with
  | error e => exact .inr (.inl ⟨e, rfl⟩)
  | ok found =>
    cases found with
    | none =>
      by_cases hi : o.ignoreUndefined = true
      · exact .inl ⟨rfl, by simp only [hi, if_true]⟩
      · exact .inr (.inl ⟨.unknownFlag pair.1, by simp only [hi, if_false, Bool.false_eq_true]⟩)
    | some id =>
      by_cases hp : provided.contains id = true
      · exact .inl ⟨if_pos hp, if_pos hp⟩
      · refine .inr (.inr ⟨id, ?_, if_neg hp, if_neg hp⟩)
        rwa [List.contains_iff_mem] at hp

theorem each_receive_eq_carryOut (hd : d.shape = c.shape) {pairs : List (String × String)}
    (h : (Attempt.each (receive o x path provided) pairs d).failure = none) :
    Attempt.each (receive o x path provided) pairs d =
      carryOut (pairs.filterMap (c.configAssignment? x path provided)) d := by
  induction pairs generalizing d with
  | nil => rfl
  | cons pair rest ih =>
    rw [Attempt.each_cons] at h ⊢
    obtain ⟨hnone, e⟩ | ⟨p, e⟩ | ⟨id, -, hsome, e⟩ := receive_cases hd o x path provided pair
    · rw [e, Attempt.andThen_mk_none] at h ⊢
      rw [List.filterMap_cons_none hnone]
      exact ih hd h
    · rw [e] at h
      cases h
    · rw [Attempt.failure_andThen_eq_none_iff, e] at h
      obtain ⟨ha, hrest⟩ := h
      rw [List.filterMap_cons_some hsome, carryOut_cons, e, Attempt.andThen_of_none ha,
        Attempt.andThen_of_none ha]
      exact ih ((shape_assign d id pair.2 (.config path)).trans hd) hrest

/-- A pair whose name means a flag that was not provided is assigned to it. -/
theorem receive_of_resolveName {name : String} {id : FlagId}
    (h : c.resolveName x name = .ok (some id)) (hid : id ∉ provided) (o : ParseOptions)
    (raw : String) :
    receive o x path provided (name, raw) c = c.assign id raw (.config path) := by
  have hnot : ¬ provided.contains id = true := by rwa [List.contains_iff_mem]
  unfold receive
  simp only [h, if_neg hnot]

theorem each_receive_of_resolveName {name : String} {id : FlagId}
    (h : c.resolveName x name = .ok (some id)) (hid : id ∉ provided) (hd : d.shape = c.shape)
    (raws : List String) :
    Attempt.each (receive o x path provided) (raws.map (name, ·)) d =
      assignAll (.config path) (raws.map (.mk id)) d := by
  induction raws generalizing d with
  | nil => rfl
  | cons raw rest ih =>
    have hfirst : receive o x path provided (name, raw) d = d.assign id raw (.config path) :=
      receive_of_resolveName ((resolveName_of_shape hd x name).trans h) hid o raw
    have hassign : assignAll (.config path) ((raw :: rest).map (.mk id)) d =
        (d.assign id raw (.config path)).andThen
          (assignAll (.config path) (rest.map (.mk id))) := rfl
    rw [List.map_cons, Attempt.each_cons, hfirst, hassign]
    cases hfail : (d.assign id raw (.config path)).failure with
    | some e => rw [Attempt.andThen_of_some hfail, Attempt.andThen_of_some hfail]
    | none =>
      rw [Attempt.andThen_of_none hfail, Attempt.andThen_of_none hfail,
        ih ((shape_assign ..).trans hd)]

/-- What the configuration tier does: nothing, perhaps with a failure, or it feeds the pairs of an
opened file. -/
theorem fillFromConfig_cases (o : ParseOptions) (x : KeyIndex) (c : Chain) :
    (c.configTier o = [] ∧ ∃ failure, c.fillFromConfig o x = ⟨c, failure⟩) ∨
      ∃ path source, c.configPath o = .ok (some path) ∧ o.openFile path = .opened source ∧
        c.fillFromConfig o x = (o.decoder source).feed (receive o x path c.provided) c := by
  unfold configTier fillFromConfig
  cases c.configPath o with
  | error e => exact .inl ⟨rfl, _, rfl⟩
  | ok found =>
    cases found with
    | none => exact .inl ⟨rfl, _, rfl⟩
    | some path =>
      simp only [fillFromFile]
      cases hopen : o.openFile path with
      | missing => exact .inl ⟨rfl, _, rfl⟩
      | refused reason => exact .inl ⟨rfl, _, rfl⟩
      | opened source => exact .inr ⟨path, source, rfl, hopen, rfl⟩

theorem configTier_eq_filterMap {source : Source} (hpath : c.configPath o = .ok (some path))
    (hopen : o.openFile path = .opened source) :
    c.configTier o = (o.decoder source).pairs.filterMap
      (c.configAssignment? (KeyIndex.ofChain o.rules c) path c.provided) := by
  unfold configTier
  simp only [hpath, hopen]

theorem fillFromConfig_eq_carryOut
    (h : (c.fillFromConfig o (KeyIndex.ofChain o.rules c)).failure = none) :
    c.fillFromConfig o (KeyIndex.ofChain o.rules c) = carryOut (c.configTier o) c := by
  obtain ⟨hnil, failure, e⟩ | ⟨path, source, hpath, hopen, e⟩ :=
    fillFromConfig_cases o (KeyIndex.ofChain o.rules c) c
  · rw [e] at h ⊢
    cases h
    rw [hnil]
    rfl
  · rw [e, Decoded.feed, Attempt.failure_andThen_eq_none_iff] at h
    obtain ⟨heach, hdecoded : (o.decoder source).failure = none⟩ := h
    rw [e, configTier_eq_filterMap hpath hopen, ← each_receive_eq_carryOut rfl heach, Decoded.feed,
      Attempt.andThen_of_none heach, hdecoded, Attempt.mk_of_none heach]

/-! ## What the tier leaves -/

/-- A flag of the tier was not set, and has the values that the opened file gives its names. -/
theorem opened_of_mem_configTier {id : FlagId} (hid : id ∈ places (c.configTier o)) :
    ∃ f path source, c.flagAt? id = some f ∧ f.isSet = false ∧
      c.configPath o = .ok (some path) ∧ o.openFile path = .opened source ∧
      rawsAt id (c.configTier o) = ((o.decoder source).pairs.filter fun pair =>
        c.means (KeyIndex.ofChain o.rules c) id pair.1).map Prod.snd ∧
      ∀ a ∈ c.configTier o, a.origin = .config path := by
  obtain ⟨hnil, -⟩ | ⟨path, source, hpath, hopen, -⟩ :=
    fillFromConfig_cases o (KeyIndex.ofChain o.rules c) c
  · rw [hnil] at hid
    cases hid
  · rw [configTier_eq_filterMap hpath hopen] at hid ⊢
    obtain ⟨a, ha, rfl⟩ := List.mem_map.1 hid
    obtain ⟨pair, -, hpair⟩ := List.mem_filterMap.1 ha
    obtain ⟨id, hname, hnot, rfl⟩ := configAssignment?_eq_some_iff.1 hpair
    obtain ⟨f, hf⟩ := flagAt?_of_resolveName hname
    have hunset : f.isSet = false := by
      rw [← Bool.not_eq_true]
      exact fun hset => hnot (mem_provided_iff.2 ⟨f, hf, hset⟩)
    refine ⟨f, path, source, hf, hunset, hpath, hopen, rawsAt_configAssignments hnot _, ?_⟩
    intro b hb
    obtain ⟨pair', -, hpair'⟩ := List.mem_filterMap.1 hb
    obtain ⟨id', -, -, rfl⟩ := configAssignment?_eq_some_iff.1 hpair'
    rfl

theorem shape_receive (h : d.shape = c.shape) (o : ParseOptions) (x : KeyIndex) (path : String)
    (provided : List FlagId) (pair : String × String) :
    (receive o x path provided pair d).state.shape = c.shape := by
  obtain ⟨-, e⟩ | ⟨p, e⟩ | ⟨id, -, -, e⟩ := receive_cases h o x path provided pair <;> rw [e]
  · exact h
  · exact h
  · exact (shape_assign ..).trans h

/-- Flags that are set come out of the configuration tier as they went in, also where it fails. -/
theorem fillFromConfig_keeps (x : KeyIndex) {id : FlagId} {f : Flag} (hf : c.flagAt? id = some f)
    (hset : f.isSet = true) : (c.fillFromConfig o x).state.flagAt? id = some f := by
  obtain ⟨-, failure, e⟩ | ⟨path, source, -, -, e⟩ := fillFromConfig_cases o x c <;> rw [e]
  · exact hf
  · refine (Decoded.feed_preserves
      (P := fun d : Chain => d.shape = c.shape ∧ d.flagAt? id = some f) ?_ ⟨rfl, hf⟩).2
    rintro pair d ⟨hd, hdf⟩
    refine ⟨shape_receive hd o x path c.provided pair, ?_⟩
    obtain ⟨-, e⟩ | ⟨p, e⟩ | ⟨id', hnot, -, e⟩ :=
      receive_cases hd o x path c.provided pair <;> rw [e]
    · exact hdf
    · exact hdf
    · have hne : id ≠ id' := by
        rintro rfl
        exact hnot (mem_provided_iff.2 ⟨f, hf, hset⟩)
      rw [flagAt?_assign_of_ne hne, hdf]

end LayeredFlags.Chain
