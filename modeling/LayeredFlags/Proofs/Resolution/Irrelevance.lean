import LayeredFlags.Proofs.Resolution.Reordering

/-!
# Entries that do not matter

Where names without a flag are passed over, the configuration tier does what it does without
tolerance on a stream from which the entries of such names are deleted; a name of several flags is
refused by both.  An entry for a flag that was set before the tier may be missing or have any other
value, however invalid.
-/

namespace LayeredFlags

/-! ## Idle steps -/

/-- Steps that do nothing may be left out. -/
theorem Attempt.each_filter {σ α : Type} {step step' : α → σ → Attempt σ} {P : σ → Prop}
    {p : α → Bool} (hkept : ∀ a s, P s → P (step' a s).state)
    (hidle : ∀ a s, P s → p a = false → step a s = ⟨s, none⟩)
    (hsame : ∀ a s, P s → p a = true → step a s = step' a s) (xs : List α) {s : σ} (hs : P s) :
    each step xs s = each step' (xs.filter p) s := by
  induction xs generalizing s with
  | nil => rfl
  | cons x xs ih =>
    cases hx : p x with
    | false =>
      rw [List.filter_cons_of_neg (by simp [hx]), each_cons, hidle x s hs hx, andThen_mk_none,
        ih hs]
    | true =>
      rw [List.filter_cons_of_pos hx, each_cons, each_cons, hsame x s hs hx]
      exact andThen_congr (ih (hkept x s hs))

/-! ## Edited streams -/

/-- The stream with those of its pairs that pass a test. -/
def Decoded.keep (p : String × String → Bool) (d : Decoded) : Decoded :=
  { d with pairs := d.pairs.filter p }

/-- A list of pairs is another one, edited at free names: a pair with such a name may be removed, or
get any other value. -/
inductive EditedAt (free : String → Prop) :
    (before after : List (String × String)) → Prop
  | nil : EditedAt free [] []
  | kept (pair : String × String) {ps qs : List (String × String)} (h : EditedAt free ps qs) :
      EditedAt free (pair :: ps) (pair :: qs)
  | removed {pair : String × String} {ps qs : List (String × String)} (hpair : free pair.1)
      (h : EditedAt free ps qs) : EditedAt free (pair :: ps) qs
  | revalued {name : String} (raw other : String) {ps qs : List (String × String)}
      (hname : free name) (h : EditedAt free ps qs) :
      EditedAt free ((name, raw) :: ps) ((name, other) :: qs)

namespace Chain

variable {c d : Chain} {o o' : ParseOptions} {x : KeyIndex} {r : KeyRules} {path name : String}
  {provided : List FlagId} {pair : String × String}

/-- Some flag of the chain answers to the name, or derives the key that the name stands for. -/
def known (c : Chain) (r : KeyRules) (name : String) : Bool :=
  c.located.any fun (_, f) =>
    f.names.answersTo (bareName name) || (r.keys f).contains (r.fold (keyBody name))

/-- The name means a flag that is set. -/
def Provides (c : Chain) (r : KeyRules) (name : String) : Prop :=
  ∃ id f, c.resolveName (KeyIndex.ofChain r c) name = .ok (some id) ∧ c.flagAt? id = some f ∧
    f.isSet = true

/-- A stream is another one, edited at the names of flags that are set. -/
structure Edits (c : Chain) (r : KeyRules) (p q : Decoded) : Prop where
  pairs : EditedAt (c.Provides r) p.pairs q.pairs
  ended : p.failure = q.failure

/-! ## Names -/

theorem known_eq_false_iff : c.known r name = false ↔
    c.locateName name = none ∧ c.holders r (r.fold (keyBody name)) = [] := by
  unfold known locateName holders
  rw [List.any_eq_false, locate_eq_none_iff, List.filter_eq_nil_iff]
  simp only [Bool.or_eq_true, not_or, Bool.not_eq_true, Prod.forall, mem_located_iff, forall_and]

/-- A name means nothing just when no flag is known by it. -/
theorem resolveName_eq_none_iff :
    c.resolveName (KeyIndex.ofChain r c) name = .ok none ↔ c.known r name = false := by
  rw [known_eq_false_iff]
  unfold resolveName
  cases c.locateName name with
  | some id => simp
  | none =>
    have hrules : (KeyIndex.ofChain r c).rules = r := rfl
    simp only [KeyIndex.reverse, KeyIndex.owners_ofChain, hrules, true_and]
    rcases c.holders r (r.fold (keyBody name)) with _ | ⟨p, _ | ⟨q, rest⟩⟩
    · simp
    · simp
    · simp

/-! ## Single entries -/

/-- What is tolerated matters for names without a flag only. -/
theorem receive_of_known (hd : d.shape = c.shape) (h : c.resolveName x pair.1 ≠ .ok none)
    (o o' : ParseOptions) :
    receive o x path provided pair d = receive o' x path provided pair d := by
  unfold receive
  rw [resolveName_of_shape hd]
  cases hname : c.resolveName x pair.1 with
  | error e => rfl
  | ok found =>
    cases found with
    | none => exact absurd hname h
    | some id => rfl

theorem receive_of_unknown (hd : d.shape = c.shape) (h : c.resolveName x pair.1 = .ok none)
    (ho : o.ignoreUndefined = true) : receive o x path provided pair d = ⟨d, none⟩ := by
  unfold receive
  simp only [resolveName_of_shape hd, h, ho, if_true]

/-- The value of an entry for a flag that was set before is not looked at. -/
theorem receive_of_provides (hd : d.shape = c.shape) (h : c.Provides r name) (raw : String) :
    receive o (KeyIndex.ofChain r c) path c.provided (name, raw) d = ⟨d, none⟩ := by
  obtain ⟨id, f, hname, hf, hset⟩ := h
  have hid : c.provided.contains id = true :=
    List.contains_iff_mem.2 (mem_provided_iff.2 ⟨f, hf, hset⟩)
  unfold receive
  simp only [resolveName_of_shape hd, hname, if_pos hid]

/-! ## Streams -/

theorem each_receive_ignoring (ho : o.ignoreUndefined = true) (o' : ParseOptions) (path : String)
    (pairs : List (String × String)) :
    Attempt.each (receive o (KeyIndex.ofChain r c) path provided) pairs c =
      Attempt.each (receive o' (KeyIndex.ofChain r c) path provided)
        (pairs.filter fun pair => c.known r pair.1) c := by
  refine Attempt.each_filter (P := fun d : Chain => d.shape = c.shape)
    (fun pair d hd => shape_receive hd o' _ path provided pair) (fun pair d hd hpair => ?_)
    (fun pair d hd hpair => receive_of_known hd ?_ o o') pairs rfl
  · exact receive_of_unknown hd (resolveName_eq_none_iff.2 hpair) ho
  · rw [Ne, resolveName_eq_none_iff, hpair]
    decide

theorem each_receive_of_editedAt {ps qs : List (String × String)}
    (h : EditedAt (c.Provides r) ps qs) (hd : d.shape = c.shape) (o : ParseOptions)
    (path : String) :
    Attempt.each (receive o (KeyIndex.ofChain r c) path c.provided) ps d =
      Attempt.each (receive o (KeyIndex.ofChain r c) path c.provided) qs d := by
  induction h generalizing d with
  | nil => rfl
  | kept pair _ ih =>
    rw [Attempt.each_cons, Attempt.each_cons]
    exact Attempt.andThen_congr (ih (shape_receive hd o _ path c.provided pair))
  | removed hpair _ ih =>
    rw [Attempt.each_cons, receive_of_provides hd hpair, Attempt.andThen_mk_none, ih hd]
  | revalued raw other hname _ ih =>
    rw [Attempt.each_cons, Attempt.each_cons, receive_of_provides hd hname,
      receive_of_provides hd hname, Attempt.andThen_mk_none, Attempt.andThen_mk_none, ih hd]

theorem feed_ignoring (ho : o.ignoreUndefined = true) (o' : ParseOptions) (path : String)
    (p : Decoded) :
    p.feed (receive o (KeyIndex.ofChain r c) path provided) c =
      (p.keep fun pair => c.known r pair.1).feed
        (receive o' (KeyIndex.ofChain r c) path provided) c :=
  congrArg (Attempt.andThen · _) (each_receive_ignoring ho o' path p.pairs)

theorem feed_of_edits {p q : Decoded} (h : c.Edits r p q) (o : ParseOptions) (path : String) :
    q.feed (receive o (KeyIndex.ofChain r c) path c.provided) c =
      p.feed (receive o (KeyIndex.ofChain r c) path c.provided) c := by
  unfold Decoded.feed
  rw [each_receive_of_editedAt h.pairs rfl, h.ended]

/-! ## The tier -/

/-- Options with the same files, under which every opened file is received alike, make the same
configuration tier. -/
theorem fillFromConfig_congr (hfile : o'.configFile = o.configFile)
    (hopen : o'.openFile = o.openFile) (hmissing : o'.allowMissing = o.allowMissing)
    (hfeed : ∀ path source, (o'.decoder source).feed (receive o' x path c.provided) c =
      (o.decoder source).feed (receive o x path c.provided) c) :
    c.fillFromConfig o' x = c.fillFromConfig o x := by
  have hpath : c.configPath o' = c.configPath o := by
    unfold configPath
    rw [hfile]
  unfold fillFromConfig fillFromFile
  rw [hpath, hopen, hmissing]
  simp only [hfeed]

/-- To pass over names without a flag is to be strict on the stream without their entries; and in
either mode, the outcome does not depend on the entries for flags that were set before. -/
theorem fillFromConfig_irrelevant {decoder : ConfigDecoder}
    (h : ∀ source, c.Edits o.rules (o.decoder source) (decoder source)) :
    c.fillFromConfig { o with ignoreUndefined := true } (KeyIndex.ofChain o.rules c) =
        c.fillFromConfig
          { o with
            ignoreUndefined := false
            decoder := fun source => (o.decoder source).keep fun pair => c.known o.rules pair.1 }
          (KeyIndex.ofChain o.rules c) ∧
      ∀ ignoreUndefined,
        c.fillFromConfig { o with ignoreUndefined, decoder } (KeyIndex.ofChain o.rules c) =
          c.fillFromConfig { o with ignoreUndefined } (KeyIndex.ofChain o.rules c) := by
  constructor
  · exact fillFromConfig_congr rfl rfl rfl fun path source => feed_ignoring rfl _ path _
  · intro ignoreUndefined
    refine fillFromConfig_congr rfl rfl rfl fun path source => ?_
    exact feed_of_edits (h source) { o with ignoreUndefined } path

theorem fillFromConfig_irrelevant_sample :
    let c := (grownChain.set "n" "7").state
    let p : Decoded :=
      ⟨[("tag", "a"), ("n", "no number"), ("nope", "?"), ("N", "8"), ("TAG", "b"), ("n", "-")],
        none⟩
    let q : Decoded :=
      ⟨[("tag", "a"), ("n", "9"), ("nope", "?"), ("TAG", "b")], none⟩
    let o : ParseOptions :=
      { rules := { shortNames := true }
        configFile := some (.path "app.conf")
        openFile := fun _ => .opened (.ofString "")
        decoder := fun _ => p }
    let x := KeyIndex.ofChain o.rules c
    c.Edits o.rules p q ∧ (p.keep fun pair => c.known o.rules pair.1).pairs.length = 5 ∧
      (c.fillFromConfig o x).failure = some (.unknownFlag "nope") ∧
      (c.fillFromConfig { o with ignoreUndefined := true } x).state.sets.map
        (fun s => s.flags.map Flag.text) = [["[a, b]", "7"], ["false", "false"]] ∧
      c.fillFromConfig { o with ignoreUndefined := true } x = c.fillFromConfig
        { o with
          ignoreUndefined := false
          decoder := fun _ => p.keep fun pair => c.known o.rules pair.1 } x ∧
      ∀ ignoreUndefined, c.fillFromConfig { o with ignoreUndefined, decoder := fun _ => q } x =
        c.fillFromConfig { o with ignoreUndefined } x := by
  intro c p q o x
  have hmeans (name : String) (hname : c.resolveName x name = .ok (some ⟨0, 1⟩)) :
      c.Provides o.rules name := ⟨⟨0, 1⟩, _, hname, rfl, rfl⟩
  have hn : c.Provides o.rules "n" := hmeans "n" (by decide +kernel)
  have hN : c.Provides o.rules "N" := hmeans "N" (by decide +kernel)
  have hedits : c.Edits o.rules p q :=
    ⟨.kept _ (.revalued _ _ hn (.kept _ (.removed hN (.kept _ (.removed hn .nil))))), rfl⟩
  obtain ⟨hstrict, hedited⟩ := fillFromConfig_irrelevant (o := o) fun _ => hedits
  exact ⟨hedits, by decide +kernel, by decide +kernel, by decide +kernel, hstrict, hedited⟩

end Chain

end LayeredFlags
