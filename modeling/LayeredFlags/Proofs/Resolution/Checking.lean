import LayeredFlags.Proofs.Chain.Evolution
import LayeredFlags.Proofs.Resolution.Failures

/-!
# The check of the environment

Before the environment assigns anything it is checked: no two flags may derive one key, and no
variable that an unset flag consults may hold anything but text.  Where the check fails, the parse
ends with the chain as the command line left it, however many other flags have usable variables.
-/

namespace LayeredFlags

/-! ## Values do not judge variables -/

theorem readDigits_ne_notText {limit n : Nat} {overflow : ValueProblem} {s : List Char}
    {key : String} (h : overflow ≠ .notText key) :
    readDigits limit overflow n s ≠ .error (.notText key) := by
  induction s generalizing n with
  | nil => simp [readDigits]
  | cons c s ih =>
    unfold readDigits
    dsimp only
    split_ifs
    · exact ih
    · simp [h]
    · simp

theorem map_ne_error {α β ε : Type} {x : Except ε α} {e : ε} (h : x ≠ .error e) (f : α → β) :
    x.map f ≠ .error e := by
  cases x with
  | ok a => simp [Except.map]
  | error e' => simpa [Except.map] using h

theorem ScalarType.read_ne_notText (t : ScalarType) (raw key : String) :
    t.read raw ≠ .error (.notText key) := by
  have hlarge (limit : Nat) (s : List Char) :
      readDigits limit .tooLarge 0 s ≠ .error (.notText key) :=
    readDigits_ne_notText (by simp)
  have hsmall (limit : Nat) (s : List Char) :
      readDigits limit .tooSmall 0 s ≠ .error (.notText key) :=
    readDigits_ne_notText (by simp)
  cases t with
  | string => simp [read]
  | int type =>
    refine map_ne_error ?_ _
    unfold IntType.read
    split
    · simp
    · simp
    · simp
    · exact map_ne_error (hlarge _ _) _
    · split_ifs
      · exact map_ne_error (map_ne_error (hsmall _ _) Int.ofNat) fun i => -i
      · simp
    · exact map_ne_error (hlarge _ _) _
  | float =>
    refine map_ne_error ?_ _
    unfold readFloat
    dsimp only
    split_ifs
    · simp
    · simp
    · simp
    · split <;> simp
  | bool =>
    unfold read
    dsimp only
    split_ifs <;> simp
  | char =>
    unfold read
    dsimp only
    split <;> simp

/-- No value refuses a string as a variable without text. -/
theorem Value.assign_ne_notText (v : Value) (raw key : String) :
    v.assign raw ≠ .error (.notText key) := by
  cases v with
  | scalar type current initial => exact map_ne_error (type.read_ne_notText raw key) _
  | list type unique defaults collected =>
    exact map_ne_error (map_ne_error (type.read_ne_notText raw key) (Collection.push _ _)) _
  | switch current initial =>
    unfold assign
    dsimp only
    split <;> simp
  | choice choices current initial =>
    unfold assign
    dsimp only
    split_ifs <;> simp
  | custom rules state =>
    unfold assign
    dsimp only
    split <;> simp

namespace Chain

variable {c : Chain} {o : ParseOptions} {args : List String} {x : KeyIndex} {e : FlagError}

/-- The failures of the check: a key of two flags, or a variable without text. -/
inductive CheckFailure : FlagError → Prop
  | duplicateKey (key first second : String) : CheckFailure (.duplicateKey key first second)
  | notText (flag raw key : String) : CheckFailure (.valueRejected flag raw (.notText key))

/-- An assignment fails for want of a flag, or with what a value says. -/
theorem not_checkFailure_of_assign {id : FlagId} {raw : String} {origin : Origin}
    (h : (c.assign id raw origin).failure = some e) : ¬ CheckFailure e := by
  obtain ⟨-, rfl⟩ | ⟨f, problem, -, hvalue, rfl⟩ := failure_assign_cases h
  · rintro ⟨⟩
  · rintro ⟨⟩
    exact f.value.assign_ne_notText _ _ hvalue

/-- In the configuration tier nobody but the decoder can report such a failure. -/
theorem exists_decoder_of_checkFailure (he : CheckFailure e)
    (h : (c.fillFromConfig o x).failure = some e) :
    ∃ path source, c.configPath o = .ok (some path) ∧ o.openFile path = .opened source ∧
      (o.decoder source).failure = some e := by
  obtain (⟨name, rfl⟩ | ⟨path, rfl⟩ | ⟨path, reason, rfl⟩) | ⟨path, pair, d, hpair⟩ |
    ⟨path, source, hpath, hopen, hfail, -⟩ := fillFromConfig_failure_cases h
  · cases he
  · cases he
  · cases he
  · obtain ⟨name, rfl⟩ | ⟨key, candidates, rfl⟩ | ⟨id, hassign⟩ := receive_failure hpair
    · cases he
    · cases he
    · exact absurd he (not_checkFailure_of_assign hassign)
  · exact ⟨path, source, hpath, hopen, hfail⟩

/-! ## Faults -/

/-- The flags that are not set, nearest first. -/
def unset (c : Chain) : List (FlagId × Flag) :=
  c.located.filter fun (_, f) => !f.isSet

theorem mem_unset_iff {id : FlagId} {f : Flag} :
    (id, f) ∈ c.unset ↔ c.flagAt? id = some f ∧ f.isSet = false := by
  rw [unset, List.mem_filter, mem_located_iff, Bool.not_eq_true']

/-- What is wrong with the environment of a parse: two flags have a key in common; or no two have,
and among the flags that the command line left unset there is one, the nearest of its kind, whose
first variable that counts holds no text. -/
inductive EnvFault (o : ParseOptions) (args : List String) (c : Chain) : FlagError → Prop
  | sharedKey {e : FlagError} (h : (KeyIndex.ofChain o.rules c).clash? = some e) :
      EnvFault o args c e
  | notText {before after : List (FlagId × Flag)} {id : FlagId} {f : Flag} {key : String}
      {bytes : List UInt8} (apart : c.KeysApart o.rules)
      (walk : (c.afterArgs args).unset = before ++ (id, f) :: after)
      (nearer : ∀ p ∈ before, ∀ k bs, ¬ FirstBroken o.env (o.rules.keys p.2) k bs)
      (broken : FirstBroken o.env (o.rules.keys f) key bytes) :
      EnvFault o args c
        (.valueRejected f.display (Text.Utf8.decodeLossy bytes) (.notText key))

/-- The variables of the unset flags cannot be had just when one of these flags consults a variable
without text. -/
theorem envBindings_eq_error_iff {r : KeyRules} {env : String → Option (List UInt8)} :
    c.envBindings (KeyIndex.ofChain r c) env = .error e ↔
      ∃ before id f after key bytes, c.unset = before ++ (id, f) :: after ∧
        (∀ p ∈ before, ∀ k bs, ¬ FirstBroken env (r.keys p.2) k bs) ∧
        FirstBroken env (r.keys f) key bytes ∧
        e = .valueRejected f.display (Text.Utf8.decodeLossy bytes) (.notText key) := by
  have hkeys {p : FlagId × Flag} (hp : p ∈ c.unset) :
      (KeyIndex.ofChain r c).keysAt p.1 = r.keys p.2 :=
    KeyIndex.keysAt_ofChain r (mem_unset_iff.1 hp).1
  unfold envBindings
  rw [← unset, bindingsOf_eq_error_iff]
  constructor
  · rintro ⟨before, ⟨id, f⟩, after, hwalk, hbefore, hf⟩
    rw [hkeys (by simp [hwalk])] at hf
    obtain ⟨key, bytes, hbroken, rfl⟩ := consultEnv_eq_error_iff.1 hf
    refine ⟨before, id, f, after, key, bytes, hwalk, fun p hp k bs hk => ?_, hbroken, rfl⟩
    have hconsult := hbefore p hp
    rw [hkeys (by simp [hwalk, hp])] at hconsult
    exact hconsult _ (consultEnv_eq_error_iff.2 ⟨k, bs, hk, rfl⟩)
  · rintro ⟨before, id, f, after, key, bytes, hwalk, hbefore, hbroken, rfl⟩
    refine ⟨before, (id, f), after, hwalk, fun p hp e' he' => ?_, ?_⟩
    · rw [hkeys (by simp [hwalk, hp])] at he'
      obtain ⟨k, bs, hk, -⟩ := consultEnv_eq_error_iff.1 he'
      exact hbefore p hp k bs hk
    · rw [hkeys (by simp [hwalk])]
      exact consultEnv_eq_error_iff.2 ⟨key, bytes, hbroken, rfl⟩

/-- There is a fault just when the check finds something. -/
theorem envFault_iff :
    c.EnvFault o args e ↔
      (KeyIndex.ofChain o.rules c).clash? = some e ∨
        (KeyIndex.ofChain o.rules c).clash? = none ∧
          (c.afterArgs args).envBindings (KeyIndex.ofChain o.rules c) o.env = .error e := by
  rw [← keyIndex_afterArgs o.rules args c, envBindings_eq_error_iff,
    keyIndex_afterArgs o.rules args c, KeyIndex.clash?_eq_none_iff]
  constructor
  · rintro (h | ⟨apart, walk, nearer, broken⟩)
    · exact .inl h
    · exact .inr ⟨apart, _, _, _, _, _, _, walk, nearer, broken, rfl⟩
  · rintro (h | ⟨apart, before, id, f, after, key, bytes, walk, nearer, broken, rfl⟩)
    · exact .sharedKey h
    · exact .notText apart walk nearer broken

/-- Two flags with a key in common make a fault, and so does an unset flag with a variable without
text, wherever in the chain they are. -/
theorem exists_envFault_iff :
    (∃ e, c.EnvFault o args e) ↔
      ¬ c.KeysApart o.rules ∨
        ∃ id f key bytes, (c.afterArgs args).flagAt? id = some f ∧ f.isSet = false ∧
          FirstBroken o.env (o.rules.keys f) key bytes := by
  constructor
  · rintro ⟨e, h | ⟨-, walk, -, broken⟩⟩
    · refine .inl fun apart => ?_
      rw [KeyIndex.clash?_eq_none_iff.2 apart] at h
      cases h
    · obtain ⟨hf, hunset⟩ := mem_unset_iff.1 (walk ▸ List.mem_append_right _ List.mem_cons_self)
      exact .inr ⟨_, _, _, _, hf, hunset, broken⟩
  · intro h
    by_cases apart : c.KeysApart o.rules
    · obtain ⟨id, f, key, bytes, hf, hunset, broken⟩ := h.resolve_left (not_not_intro apart)
      cases hbs : (c.afterArgs args).envBindings (KeyIndex.ofChain o.rules c) o.env with
      | error e => exact ⟨e, envFault_iff.2 (.inr ⟨KeyIndex.clash?_eq_none_iff.2 apart, hbs⟩)⟩
      | ok bs =>
        obtain ⟨found, hfound⟩ := exists_found_of_bindingsOf hbs (mem_unset_iff.2 ⟨hf, hunset⟩)
        rw [← keyIndex_afterArgs o.rules args c, KeyIndex.keysAt_ofChain o.rules hf,
          consultEnv_eq_error_iff.2 ⟨key, bytes, broken, rfl⟩] at hfound
        cases hfound
    · obtain ⟨e, h⟩ := Option.ne_none_iff_exists'.1 (mt KeyIndex.clash?_eq_none_iff.1 apart)
      exact ⟨e, .sharedKey h⟩

/-! ## Parses with a fault -/

theorem fillFromEnv_of_envFault (ho : o.envEnabled = true) (h : c.EnvFault o args e) :
    (c.afterArgs args).fillFromEnv o (KeyIndex.ofChain o.rules c) = ⟨c.afterArgs args, some e⟩ := by
  unfold fillFromEnv
  rw [if_pos ho]
  obtain hclash | ⟨hclash, hbs⟩ := envFault_iff.1 h
  · rw [hclash]
  · simp only [hclash, hbs]

/-- Where the environment tier reports a failure of the check, the check has failed. -/
theorem envFault_of_fillFromEnv (he : CheckFailure e)
    (h : ((c.afterArgs args).fillFromEnv o (KeyIndex.ofChain o.rules c)).failure = some e) :
    c.EnvFault o args e := by
  unfold fillFromEnv at h
  by_cases ho : o.envEnabled = true
  · rw [if_pos ho] at h
    cases hclash : (KeyIndex.ofChain o.rules c).clash? with
    | some e' =>
      rw [hclash] at h
      cases h
      exact .sharedKey hclash
    | none =>
      simp only [hclash] at h
      cases hbs : (c.afterArgs args).envBindings (KeyIndex.ofChain o.rules c) o.env with
      | error e' =>
        rw [hbs] at h
        cases h
        exact envFault_iff.2 (.inr ⟨hclash, hbs⟩)
      | ok bs =>
        simp only [hbs] at h
        obtain ⟨_, b, _, -, -, hb, -⟩ := Attempt.exists_of_failure_each h
        obtain ⟨_, a, _, -, -, ha, -⟩ := Attempt.exists_of_failure_each hb
        exact absurd he (not_checkFailure_of_assign ha)
  · rw [if_neg ho] at h
    cases h

/-- The command line neither marks a set as parsed nor touches its leftover arguments. -/
theorem own_afterArgs (args : List String) (c : Chain) :
    (c.afterArgs args).own = { c.own with flags := (c.afterArgs args).own.flags } := by
  have hevolves : c.Evolves (c.afterArgs args) :=
    kept_afterArgs (fun _ id raw o h => h.assign id raw o) (.refl c) args
  obtain ⟨hown, -⟩ := List.forall₂_cons.1 hevolves
  exact hown.rest

/-- How a parse goes by the check of its environment. -/
structure Checked (o : ParseOptions) (args : List String) (c : Chain) : Prop where
  /-- A fault is the failure of the parse; nothing is assigned behind the command line, and the set
  is neither parsed nor has it other leftover arguments than before. -/
  assignsNothing : ∀ e, c.EnvFault o args e →
    c.parse o args = ⟨(c.readArgs args).chain, some e⟩ ∧
      (c.parse o args).state.own.parsed = false ∧
      (c.parse o args).state.own.leftovers = c.own.leftovers
  /-- A parse that fails like that has such a fault, unless the decoder claims so by itself of the
  file that is configured behind the upper tiers. -/
  blamesFault : ∀ e, CheckFailure e → (c.parse o args).failure = some e →
    c.EnvFault o args e ∨
      ∃ path source, (c.afterEnv o args).configPath o = .ok (some path) ∧
        o.openFile path = .opened source ∧ (o.decoder source).failure = some e
  /-- Faults are shared keys and variables without text, of whatever flags of the chain. -/
  fault_iff : (∃ e, c.EnvFault o args e) ↔
    ¬ c.KeysApart o.rules ∨
      ∃ id f key bytes, (c.readArgs args).chain.flagAt? id = some f ∧ f.isSet = false ∧
        FirstBroken o.env (o.rules.keys f) key bytes

/-- Behind a command line that was read, an environment that fails its check assigns nothing. -/
theorem checked_of_passesArgs (hp : c.own.parsed = false) (hargs : c.PassesArgs args)
    (ho : o.envEnabled = true) : c.Checked o args := by
  refine ⟨fun e h => ?_, fun e he h => ?_, exists_envFault_iff⟩
  · obtain ⟨leftovers, hread⟩ := hargs
    have hparse : c.parse o args = ⟨c.afterArgs args, some e⟩ := by
      rw [parse_of_passesArgs hp hread, fillFromEnv_of_envFault ho h]
      rfl
    rw [hparse, own_afterArgs]
    exact ⟨rfl, hp, rfl⟩
  · cases failsIn_of_parse h with
    | parsed _ => cases he
    | args _ hread =>
      obtain ⟨leftovers, hok⟩ := hargs
      rw [hok] at hread
      cases hread
    | env _ _ henv => exact .inl (envFault_of_fillFromEnv he henv)
    | config _ _ hconfig _ =>
      exact .inr (exists_decoder_of_checkFailure he hconfig)

/-- A set with a list and a host, under a set with one more flag. -/
def hostPair : Chain :=
  let text : Value := .ofDefault .string (.string "")
  { own :=
      { name := "app"
        flags :=
          [.ofDecl { names := { long := some "tag" }, value := .ofDefaults .string false [] },
            .ofDecl { names := { short := some 'h', long := some "host" }, value := text }] }
    ancestors :=
      [{ name := "base", flags := [.ofDecl { names := { long := some "h" }, value := text }] }] }

/-- An environment with a text for the host, and with bytes that are none for the other two. -/
def brokenOptions : ParseOptions :=
  { envEnabled := true
    env := fun key =>
      if key = "HOST" then some "near".toUTF8.toList
      else if key = "TAG" ∨ key = "H" then some [0xFF] else none }

theorem checked_of_passesArgs_sample :
    let args := ["--tag", "a", "rest"]
    let shared := brokenOptions.withShortNames
    hostPair.own.parsed = false ∧ hostPair.PassesArgs args ∧ brokenOptions.envEnabled = true ∧
      (hostPair.parse brokenOptions args).failure =
        some (.valueRejected "--h" "\uFFFD" (.notText "H")) ∧
      (hostPair.parse brokenOptions args).state.isSet "tag" = true ∧
      (hostPair.parse brokenOptions args).state.isSet "host" = false ∧
      hostPair.Checked brokenOptions args ∧
      (hostPair.parse shared args).failure = some (.duplicateKey "H" "--host" "--h") ∧
      hostPair.Checked shared args := by
  intro args shared
  have hargs : hostPair.PassesArgs args := passesArgs_of_parse (o := {}) (by decide +kernel)
  refine ⟨rfl, hargs, rfl, by decide +kernel, by decide +kernel, by decide +kernel, ?_,
    by decide +kernel, ?_⟩
  · exact checked_of_passesArgs rfl hargs rfl
  · exact checked_of_passesArgs rfl hargs rfl

end Chain

end LayeredFlags
