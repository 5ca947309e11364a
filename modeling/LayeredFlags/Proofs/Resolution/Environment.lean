import LayeredFlags.Proofs.Chain.Assigning
import LayeredFlags.Proofs.Keys.Ownership
import LayeredFlags.Resolution.Environment

/-!
# Assignments of the environment tier

The environment tier gives every flag that is not set the strings of one variable: the first of
the flag's own keys that is bound to a text that is not empty.  Flags that are set keep what they
have, whatever becomes of the tier.
-/

namespace LayeredFlags

/-! ## Variables -/

/-- The environment binds a key to a text. -/
def Binds (env : String → Option (List UInt8)) (key text : String) : Prop :=
  ∃ bytes, env key = some bytes ∧ Text.Utf8.decode? bytes = some text

/-- A key is the first of some keys that the environment binds to a text that is not empty. -/
def FirstBound (env : String → Option (List UInt8)) (keys : List String) (key text : String) :
    Prop :=
  Binds env key text ∧ text ≠ "" ∧ ∃ before after, keys = before ++ key :: after ∧
    ∀ k ∈ before, env k = none ∨ Binds env k ""

/-- The environment binds a key to a text and nothing else. -/
structure BindsOnly (env : String → Option (List UInt8)) (key text : String) : Prop where
  binds : Binds env key text
  unbound : ∀ k, k ≠ key → env k = none

theorem firstBound_of_bindsOnly {env : String → Option (List UInt8)} {keys : List String}
    {key text : String} (h : BindsOnly env key text) (hne : text ≠ "") (hkey : key ∈ keys) :
    FirstBound env keys key text := by
  obtain ⟨before, after, hkeys, hbefore⟩ := List.eq_append_cons_of_mem hkey
  refine ⟨h.binds, hne, before, after, hkeys, fun k hk => .inl (h.unbound k ?_)⟩
  rintro rfl
  exact hbefore hk

theorem consultEnv_of_firstBound {env : String → Option (List UInt8)} {key text : String}
    {keys : List String} (h : FirstBound env keys key text) (flag : String) :
    consultEnv env flag keys = .ok (some (key, text)) := by
  obtain ⟨⟨bytes, hbytes, htext⟩, hne, before, after, rfl, hbefore⟩ := h
  induction before with
  | nil => simp only [List.nil_append, consultEnv, hbytes, htext, if_neg hne]
  | cons k before ih =>
    rw [List.forall_mem_cons] at hbefore
    obtain ⟨hk | ⟨bytes', hk, hempty⟩, hbefore⟩ := hbefore
    · simp only [List.cons_append, consultEnv, hk, ih hbefore]
    · simp only [List.cons_append, consultEnv, hk, hempty, if_true, ih hbefore]

/-- Keys that are unbound or bound to an empty text are passed over. -/
theorem consultEnv_of_skipped {env : String → Option (List UInt8)} {keys : List String}
    (h : ∀ k ∈ keys, env k = none ∨ Binds env k "") (flag : String) :
    consultEnv env flag keys = .ok none := by
  induction keys with
  | nil => rfl
  | cons k keys ih =>
    rw [List.forall_mem_cons] at h
    obtain ⟨hk | ⟨bytes, hk, hempty⟩, hkeys⟩ := h
    · simp only [consultEnv, hk, ih hkeys]
    · simp only [consultEnv, hk, hempty, if_true, ih hkeys]

theorem consultEnv_of_unbound {env : String → Option (List UInt8)} {keys : List String}
    (h : ∀ k ∈ keys, env k = none) (flag : String) : consultEnv env flag keys = .ok none :=
  consultEnv_of_skipped (fun k hk => .inl (h k hk)) flag

theorem firstBound_of_consultEnv {env : String → Option (List UInt8)} {flag key text : String}
    {keys : List String} (h : consultEnv env flag keys = .ok (some (key, text))) :
    FirstBound env keys key text := by
  induction keys with
  | nil => cases h
  | cons k rest ih =>
    have skip (hk : env k = none ∨ Binds env k "") (hrest : FirstBound env rest key text) :
        FirstBound env (k :: rest) key text := by
      obtain ⟨hb, hne, before, after, rfl, hbefore⟩ := hrest
      refine ⟨hb, hne, k :: before, after, rfl, ?_⟩
      intro k' hk'
      rcases List.mem_cons.1 hk' with rfl | hk'
      · exact hk
      · exact hbefore k' hk'
    unfold consultEnv at h
    cases hk : env k with
    | none =>
      rw [hk] at h
      exact skip (.inl hk) (ih h)
    | some bytes =>
      simp only [hk] at h
      cases ht : Text.Utf8.decode? bytes with
      | none =>
        rw [ht] at h
        cases h
      | some value =>
        simp only [ht] at h
        split_ifs at h with hv
        · exact skip (.inr ⟨bytes, hk, hv ▸ ht⟩) (ih h)
        · cases h
          exact ⟨⟨bytes, hk, ht⟩, hv, [], rest, rfl, by simp⟩

/-! ## Variables without text -/

/-- A key is the first of some keys that the environment binds to more than an empty text, and what
it is bound to is no text. -/
def FirstBroken (env : String → Option (List UInt8)) (keys : List String) (key : String)
    (bytes : List UInt8) : Prop :=
  env key = some bytes ∧ Text.Utf8.decode? bytes = none ∧
    ∃ before after, keys = before ++ key :: after ∧ ∀ k ∈ before, env k = none ∨ Binds env k ""

theorem firstBroken_cons_of_skipped {env : String → Option (List UInt8)} {k key : String}
    {keys : List String} {bytes : List UInt8} (hk : env k = none ∨ Binds env k "") :
    FirstBroken env (k :: keys) key bytes ↔ FirstBroken env keys key bytes := by
  constructor
  · rintro ⟨henv, hbroken, before, after, hkeys, hbefore⟩
    cases before with
    | nil =>
      obtain ⟨rfl, -⟩ := List.cons.inj hkeys
      obtain hnone | ⟨bytes', hsome, htext⟩ := hk
      · rw [hnone] at henv
        cases henv
      · rw [hsome] at henv
        cases henv
        rw [hbroken] at htext
        cases htext
    | cons _ before =>
      obtain ⟨-, rfl⟩ := List.cons.inj hkeys
      exact ⟨henv, hbroken, before, after, rfl, (List.forall_mem_cons.1 hbefore).2⟩
  · rintro ⟨henv, hbroken, before, after, rfl, hbefore⟩
    exact ⟨henv, hbroken, k :: before, after, rfl, List.forall_mem_cons.2 ⟨hk, hbefore⟩⟩

/-- A key that is bound to more than an empty text is the last one that is consulted. -/
theorem eq_of_firstBroken_cons {env : String → Option (List UInt8)} {k key : String}
    {keys : List String} {bytes : List UInt8} (h : FirstBroken env (k :: keys) key bytes)
    (hbound : env k ≠ none) (htext : ¬ Binds env k "") : key = k := by
  obtain ⟨-, -, before, after, hkeys, hbefore⟩ := h
  cases before with
  | nil => exact (List.cons.inj hkeys).1.symm
  | cons k' before =>
    obtain ⟨rfl, -⟩ := List.cons.inj hkeys
    exact absurd ((List.forall_mem_cons.1 hbefore).1.resolve_left hbound) htext

/-- Consulting the keys of a flag fails just when the first variable that counts holds no text. -/
theorem consultEnv_eq_error_iff {env : String → Option (List UInt8)} {flag : String}
    {keys : List String} {e : FlagError} :
    consultEnv env flag keys = .error e ↔
      ∃ key bytes, FirstBroken env keys key bytes ∧
        e = .valueRejected flag (Text.Utf8.decodeLossy bytes) (.notText key) := by
  induction keys with
  | nil => simp [consultEnv, FirstBroken]
  | cons k rest ih =>
    unfold consultEnv
    cases hk : env k with
    | none =>
      simp only [firstBroken_cons_of_skipped (.inl hk)]
      exact ih
    | some bytes =>
      have hbound : env k ≠ none := by simp [hk]
      simp only
      cases htext : Text.Utf8.decode? bytes with
      | none =>
        have hnot : ¬ Binds env k "" := by simp [Binds, hk, htext]
        constructor
        · rintro ⟨⟩
          exact ⟨k, bytes, ⟨hk, htext, [], rest, rfl, by simp⟩, rfl⟩
        · rintro ⟨key, bytes', hbroken, rfl⟩
          obtain rfl := eq_of_firstBroken_cons hbroken hbound hnot
          obtain rfl := Option.some.inj (hk.symm.trans hbroken.1)
          rfl
      | some value =>
        by_cases hv : value = ""
        · simp only [if_pos hv, firstBroken_cons_of_skipped (.inr ⟨bytes, hk, hv ▸ htext⟩)]
          exact ih
        · have hnot : ¬ Binds env k "" := by simp [Binds, hk, htext, hv]
          simp only [if_neg hv, reduceCtorEq, false_iff]
          rintro ⟨key, bytes', hbroken, -⟩
          obtain rfl := eq_of_firstBroken_cons hbroken hbound hnot
          obtain rfl := Option.some.inj (hk.symm.trans hbroken.1)
          rw [hbroken.2.1] at htext
          cases htext

/-! ## Bindings -/

theorem KeyIndex.keysAt_ofChain {c : Chain} {id : FlagId} {f : Flag} (r : KeyRules)
    (hf : c.flagAt? id = some f) : (KeyIndex.ofChain r c).keysAt id = r.keys f := by
  have hentry : ⟨id, f.display, r.keys f⟩ ∈ (KeyIndex.ofChain r c).entries :=
    mem_entries_ofChain.2 ⟨id, f, hf, rfl⟩
  unfold keysAt
  cases hfind : (KeyIndex.ofChain r c).entries.find? (·.id == id) with
  | none =>
    have := List.find?_eq_none.1 hfind _ hentry
    exact absurd (beq_self_eq_true id) this
  | some entry =>
    obtain ⟨id', f', hf', rfl⟩ := mem_entries_ofChain.1 (List.mem_of_find?_eq_some hfind)
    have hid : id' = id := by simpa using List.find?_some hfind
    rw [hid, hf] at hf'
    cases hf'
    rfl

namespace Chain

variable {c : Chain} {o : ParseOptions}

theorem bindingsOf_cons (x : KeyIndex) (env : String → Option (List UInt8)) (id : FlagId) (f : Flag)
    (rest : List (FlagId × Flag)) {bs : List EnvBinding}
    (h : bindingsOf x env ((id, f) :: rest) = .ok bs) :
    ∃ bs', bindingsOf x env rest = .ok bs' ∧
      ((consultEnv env f.display (x.keysAt id) = .ok none ∧ bs = bs') ∨
        ∃ key text, consultEnv env f.display (x.keysAt id) = .ok (some (key, text)) ∧
          bs = ⟨id, key, text⟩ :: bs') := by
  unfold bindingsOf at h
  cases hf : consultEnv env f.display (x.keysAt id) with
  | error e =>
    rw [hf] at h
    cases h
  | ok found =>
    simp only [hf] at h
    cases hrest : bindingsOf x env rest with
    | error e =>
      rw [hrest] at h
      cases h
    | ok bs' =>
      rw [hrest] at h
      refine ⟨bs', rfl, ?_⟩
      cases found with
      | none =>
        cases h
        exact .inl ⟨rfl, rfl⟩
      | some p =>
        cases h
        exact .inr ⟨p.1, p.2, rfl, rfl⟩

/-- Where the variables of some flags can be had, each flag consults its own without a failure. -/
theorem exists_found_of_bindingsOf {x : KeyIndex} {env : String → Option (List UInt8)}
    {fs : List (FlagId × Flag)} {bs : List EnvBinding} (h : bindingsOf x env fs = .ok bs)
    {id : FlagId} {f : Flag} (hf : (id, f) ∈ fs) :
    ∃ found, consultEnv env f.display (x.keysAt id) = .ok found := by
  induction fs generalizing bs with
  | nil => cases hf
  | cons p rest ih =>
    obtain ⟨bs', hrest, hp⟩ := bindingsOf_cons x env p.1 p.2 rest h
    rcases List.mem_cons.1 hf with rfl | hf
    · obtain ⟨hnone, -⟩ | ⟨key, text, hsome, -⟩ := hp
      · exact ⟨_, hnone⟩
      · exact ⟨_, hsome⟩
    · exact ih hrest hf

/-- Every binding is of one of the flags and comes from its keys. -/
theorem mem_of_bindingsOf {x : KeyIndex} {env : String → Option (List UInt8)}
    {fs : List (FlagId × Flag)} {bs : List EnvBinding} (h : bindingsOf x env fs = .ok bs)
    {b : EnvBinding} (hb : b ∈ bs) :
    ∃ f, (b.id, f) ∈ fs ∧
      consultEnv env f.display (x.keysAt b.id) = .ok (some (b.key, b.value)) := by
  induction fs generalizing bs with
  | nil =>
    cases h
    cases hb
  | cons p rest ih =>
    obtain ⟨id, f⟩ := p
    obtain ⟨bs', hbs', ⟨-, rfl⟩ | ⟨key, text, hfound, rfl⟩⟩ := bindingsOf_cons x env id f rest h
    · obtain ⟨g, hg, hgb⟩ := ih hbs' hb
      exact ⟨g, List.mem_cons_of_mem _ hg, hgb⟩
    · rcases List.mem_cons.1 hb with rfl | hb
      · exact ⟨f, List.mem_cons_self .., hfound⟩
      · obtain ⟨g, hg, hgb⟩ := ih hbs' hb
        exact ⟨g, List.mem_cons_of_mem _ hg, hgb⟩

/-- Bindings stand in the order of their flags, at most one for each. -/
theorem sublist_of_bindingsOf {x : KeyIndex} {env : String → Option (List UInt8)}
    {fs : List (FlagId × Flag)} {bs : List EnvBinding} (h : bindingsOf x env fs = .ok bs) :
    (bs.map EnvBinding.id).Sublist (fs.map Prod.fst) := by
  induction fs generalizing bs with
  | nil =>
    cases h
    exact List.Sublist.slnil
  | cons p rest ih =>
    obtain ⟨id, f⟩ := p
    obtain ⟨bs', hbs', ⟨-, rfl⟩ | ⟨key, text, -, rfl⟩⟩ := bindingsOf_cons x env id f rest h
    · exact (ih hbs').cons _
    · exact (ih hbs').cons_cons _

/-- The variables of some flags cannot be had just when a flag among them fails to consult its own,
and then the first such flag says why. -/
theorem bindingsOf_eq_error_iff {x : KeyIndex} {env : String → Option (List UInt8)}
    {fs : List (FlagId × Flag)} {e : FlagError} :
    bindingsOf x env fs = .error e ↔
      ∃ before p after, fs = before ++ p :: after ∧
        (∀ q ∈ before, ∀ e', consultEnv env q.2.display (x.keysAt q.1) ≠ .error e') ∧
        consultEnv env p.2.display (x.keysAt p.1) = .error e := by
  induction fs with
  | nil => simp [bindingsOf]
  | cons p rest ih =>
    unfold bindingsOf
    cases hp : consultEnv env p.2.display (x.keysAt p.1) with
    | error e' =>
      constructor
      · rintro ⟨⟩
        exact ⟨[], p, rest, rfl, by simp, hp⟩
      · rintro ⟨before, q, after, hfs, hbefore, hq⟩
        cases before with
        | nil =>
          obtain ⟨rfl, -⟩ := List.cons.inj hfs
          rw [hp] at hq
          cases hq
          rfl
        | cons q' before =>
          obtain ⟨rfl, -⟩ := List.cons.inj hfs
          exact absurd hp (hbefore p (List.mem_cons_self ..) e')
    | ok found =>
      have hmap (t : List EnvBinding → List EnvBinding) :
          (bindingsOf x env rest).map t = .error e ↔ bindingsOf x env rest = .error e := by
        cases bindingsOf x env rest <;> simp [Except.map]
      refine (hmap _).trans (ih.trans ?_)
      constructor
      · rintro ⟨before, q, after, rfl, hbefore, hq⟩
        refine ⟨p :: before, q, after, rfl, List.forall_mem_cons.2 ⟨fun e' => ?_, hbefore⟩, hq⟩
        simp [hp]
      · rintro ⟨before, q, after, hfs, hbefore, hq⟩
        cases before with
        | nil =>
          obtain ⟨rfl, -⟩ := List.cons.inj hfs
          rw [hp] at hq
          cases hq
        | cons q' before =>
          obtain ⟨-, rfl⟩ := List.cons.inj hfs
          exact ⟨before, q, after, rfl, (List.forall_mem_cons.1 hbefore).2, hq⟩

/-- Flags for which no variable counts take part in no binding. -/
theorem bindingsOf_filter {x : KeyIndex} {env : String → Option (List UInt8)}
    {fs : List (FlagId × Flag)} {p : FlagId × Flag → Bool}
    (h : ∀ q ∈ fs, p q = false → consultEnv env q.2.display (x.keysAt q.1) = .ok none) :
    bindingsOf x env (fs.filter p) = bindingsOf x env fs := by
  induction fs with
  | nil => rfl
  | cons q rest ih =>
    rw [List.forall_mem_cons] at h
    cases hq : p q with
    | true =>
      rw [List.filter_cons_of_pos hq]
      simp only [bindingsOf, ih h.2]
    | false =>
      rw [List.filter_cons_of_neg (by simp [hq]), ih h.2]
      simp only [bindingsOf, h.1 hq]
      cases bindingsOf x env rest <;> rfl

theorem bindingsOf_eq_nil {x : KeyIndex} {env : String → Option (List UInt8)}
    {fs : List (FlagId × Flag)}
    (h : ∀ id f, (id, f) ∈ fs → consultEnv env f.display (x.keysAt id) = .ok none) :
    bindingsOf x env fs = .ok [] := by
  rw [← bindingsOf_filter (p := fun _ => false) fun q hq _ => h q.1 q.2 hq, List.filter_false]
  rfl

/-- Where one flag finds a variable and no other does, that variable is the only one. -/
theorem bindingsOf_eq_singleton {x : KeyIndex} {env : String → Option (List UInt8)}
    {fs : List (FlagId × Flag)} (hnodup : (fs.map Prod.fst).Nodup) {id : FlagId} {f : Flag}
    {key text : String} (hmem : (id, f) ∈ fs)
    (hfound : consultEnv env f.display (x.keysAt id) = .ok (some (key, text)))
    (hother : ∀ id' g, (id', g) ∈ fs → id' ≠ id →
      consultEnv env g.display (x.keysAt id') = .ok none) :
    bindingsOf x env fs = .ok [⟨id, key, text⟩] := by
  induction fs with
  | nil => cases hmem
  | cons p rest ih =>
    rw [List.map_cons, List.nodup_cons] at hnodup
    rcases List.mem_cons.1 hmem with rfl | hmem
    · have hrest : bindingsOf x env rest = .ok [] := bindingsOf_eq_nil fun id' g hg =>
        hother id' g (List.mem_cons_of_mem _ hg) fun e =>
          hnodup.1 (List.mem_map.2 ⟨(id', g), hg, e⟩)
      simp only [bindingsOf, hfound, hrest]
      rfl
    · have hne : p.1 ≠ id := fun e => hnodup.1 (List.mem_map.2 ⟨(id, f), hmem, e.symm⟩)
      have hrest := ih hnodup.2 hmem fun id' g hg => hother id' g (List.mem_cons_of_mem _ hg)
      simp only [bindingsOf, hother p.1 p.2 (List.mem_cons_self ..) hne, hrest]
      rfl

/-- A variable under a key that one unset flag derives and no other is taken by that flag. -/
theorem envBindings_of_ownsKey {r : KeyRules} {id : FlagId} {f : Flag} {key text : String}
    {env : String → Option (List UInt8)} (h : c.OwnsKey r id f key) (hunset : f.isSet = false)
    (henv : BindsOnly env key text) (hne : text ≠ "") :
    c.envBindings (KeyIndex.ofChain r c) env = .ok [⟨id, key, text⟩] := by
  have hnodup := (nodup_located c).sublist
    ((List.filter_sublist (p := fun (p : FlagId × Flag) => !p.2.isSet)).map Prod.fst)
  refine bindingsOf_eq_singleton hnodup (f := f) ?_ ?_ fun id' g hg hid => ?_
  · exact List.mem_filter.2 ⟨mem_located_iff.2 h.flag, by simp [hunset]⟩
  · rw [KeyIndex.keysAt_ofChain r h.flag]
    exact consultEnv_of_firstBound (firstBound_of_bindsOnly henv hne h.derived) _
  · have hg := mem_located_iff.1 (List.mem_filter.1 hg).1
    rw [KeyIndex.keysAt_ofChain r hg]
    refine consultEnv_of_unbound (fun k hk => henv.unbound k ?_) _
    rintro rfl
    exact hid (h.only id' g hg hk)

theorem nodup_of_envBindings {x : KeyIndex} {bs : List EnvBinding}
    (h : c.envBindings x o.env = .ok bs) : (bs.map EnvBinding.id).Nodup := by
  refine (nodup_located c).sublist ((sublist_of_bindingsOf h).trans ?_)
  exact List.filter_sublist.map Prod.fst

theorem unset_of_envBindings {x : KeyIndex} {bs : List EnvBinding}
    (h : c.envBindings x o.env = .ok bs) {b : EnvBinding} (hb : b ∈ bs) :
    ∃ f, c.flagAt? b.id = some f ∧ f.isSet = false ∧
      consultEnv o.env f.display (x.keysAt b.id) = .ok (some (b.key, b.value)) := by
  obtain ⟨f, hf, hfound⟩ := mem_of_bindingsOf h hb
  obtain ⟨hf, hunset⟩ := List.mem_filter.1 hf
  exact ⟨f, mem_located_iff.1 hf, by simpa using hunset, hfound⟩

/-! ## Assignments -/

/-- The strings that the text of a variable holds. -/
def envStrings (split : Option String) (text : String) : List String :=
  match split with
  | some sep => Text.elements text sep
  | none => [text]

theorem envAssignments_eq_map (split : Option String) (b : EnvBinding) :
    envAssignments split b = (envStrings split b.value).map (⟨b.id, ·⟩) := by
  cases split <;> rfl

/-- The assignments of some variables, in order. -/
def bindingTier (split : Option String) (bs : List EnvBinding) : List TierAssignment :=
  bs.flatMap fun b => (envAssignments split b).map (·.ofTier (.env b.key))

/-- The assignments of the environment tier to the flags of a chain. -/
def envTier (o : ParseOptions) (c : Chain) : List TierAssignment :=
  if o.envEnabled then
    match c.envBindings (KeyIndex.ofChain o.rules c) o.env with
    | .error _ => []
    | .ok bs => bindingTier o.envSplit bs
  else []

theorem carryOut_bindingTier (split : Option String) (bs : List EnvBinding) (c : Chain) :
    carryOut (bindingTier split bs) c =
      Attempt.each (fun b c => assignAll (.env b.key) (envAssignments split b) c) bs c := by
  unfold bindingTier
  simp only [assignAll_eq_carryOut]
  unfold carryOut
  rw [Attempt.each_flatMap]

/-- What the environment tier does: nothing, or nothing but a failure, or the assignments of its
variables. -/
theorem fillFromEnv_cases (o : ParseOptions) (x : KeyIndex) (c : Chain) :
    (o.envEnabled = false ∧ c.fillFromEnv o x = ⟨c, none⟩) ∨
      (∃ e, c.fillFromEnv o x = ⟨c, some e⟩) ∨
      ∃ bs, o.envEnabled = true ∧ c.envBindings x o.env = .ok bs ∧
        c.fillFromEnv o x = carryOut (bindingTier o.envSplit bs) c := by
  unfold fillFromEnv
  by_cases henv : o.envEnabled = true
  · rw [if_pos henv]
    cases x.clash? with
    | some e => exact .inr (.inl ⟨e, rfl⟩)
    | none =>
      cases hbs : c.envBindings x o.env with
      | error e => exact .inr (.inl ⟨e, rfl⟩)
      | ok bs =>
        exact .inr (.inr ⟨bs, henv, rfl, (carryOut_bindingTier o.envSplit bs c).symm⟩)
  · rw [if_neg henv]
    exact .inl ⟨by simpa using henv, rfl⟩

theorem fillFromEnv_eq_carryOut
    (h : (c.fillFromEnv o (KeyIndex.ofChain o.rules c)).failure = none) :
    c.fillFromEnv o (KeyIndex.ofChain o.rules c) = carryOut (c.envTier o) c := by
  obtain ⟨henv, e⟩ | ⟨p, e⟩ | ⟨bs, henv, hbs, e⟩ :=
    fillFromEnv_cases o (KeyIndex.ofChain o.rules c) c
  · rw [e, envTier, henv]
    rfl
  · rw [e] at h
    cases h
  · rw [e, envTier, if_pos henv, hbs]

theorem exists_of_mem_bindingTier {split : Option String} {bs : List EnvBinding}
    {a : TierAssignment} (h : a ∈ bindingTier split bs) :
    ∃ b ∈ bs, a.id = b.id ∧ a.origin = .env b.key := by
  obtain ⟨b, hb, ha⟩ := List.mem_flatMap.1 h
  rw [envAssignments_eq_map, List.map_map] at ha
  obtain ⟨raw, -, rfl⟩ := List.mem_map.1 ha
  exact ⟨b, hb, rfl, rfl⟩

theorem rawsAt_bindingTier_of_ne {split : Option String} {bs : List EnvBinding} {id : FlagId}
    (h : id ∉ bs.map EnvBinding.id) : rawsAt id (bindingTier split bs) = [] := by
  unfold rawsAt
  rw [List.map_eq_nil_iff, List.filter_eq_nil_iff]
  intro a ha hid
  obtain ⟨b, hb, e, -⟩ := exists_of_mem_bindingTier ha
  have hid : a.id = id := by simpa using hid
  exact h (List.mem_map.2 ⟨b, hb, e.symm.trans hid⟩)

/-- A flag with a variable takes the strings of that variable and no others. -/
theorem rawsAt_bindingTier {split : Option String} {bs : List EnvBinding}
    (hnodup : (bs.map EnvBinding.id).Nodup) {b : EnvBinding} (hb : b ∈ bs) :
    rawsAt b.id (bindingTier split bs) = envStrings split b.value := by
  have own (b : EnvBinding) :
      rawsAt b.id ((envAssignments split b).map (·.ofTier (.env b.key))) =
        envStrings split b.value := by
    rw [envAssignments_eq_map, List.map_map, rawsAt, List.filter_eq_self.2, List.map_map]
    · exact List.map_id' _
    · intro a ha
      obtain ⟨raw, -, rfl⟩ := List.mem_map.1 ha
      exact decide_eq_true rfl
  have split_cons (b' : EnvBinding) (rest : List EnvBinding) (id : FlagId) :
      rawsAt id (bindingTier split (b' :: rest)) =
        rawsAt id ((envAssignments split b').map (·.ofTier (.env b'.key))) ++
          rawsAt id (bindingTier split rest) := by
    unfold rawsAt bindingTier
    rw [List.flatMap_cons, List.filter_append, List.map_append]
  induction bs with
  | nil => cases hb
  | cons b' rest ih =>
    obtain ⟨hnot, hrest⟩ := List.nodup_cons.1 hnodup
    rw [split_cons]
    rcases List.mem_cons.1 hb with rfl | hb
    · rw [own, rawsAt_bindingTier_of_ne hnot, List.append_nil]
    · have hne : b.id ≠ b'.id := fun e => hnot (e ▸ List.mem_map_of_mem hb)
      have hnil : rawsAt b.id ((envAssignments split b').map (·.ofTier (.env b'.key))) = [] := by
        have := @rawsAt_bindingTier_of_ne split [b'] b.id (by simpa using hne)
        rwa [bindingTier, List.flatMap_singleton] at this
      rw [hnil, List.nil_append, ih hrest hb]

/-! ## What the tier leaves -/

/-- Flags that are set come out of the environment tier as they went in, also where it fails. -/
theorem fillFromEnv_keeps (x : KeyIndex) {id : FlagId} {f : Flag} (hf : c.flagAt? id = some f)
    (hset : f.isSet = true) : (c.fillFromEnv o x).state.flagAt? id = some f := by
  obtain ⟨-, e⟩ | ⟨p, e⟩ | ⟨bs, -, hbs, e⟩ := fillFromEnv_cases o x c <;> rw [e]
  · exact hf
  · exact hf
  · rw [flagAt?_carryOut_of_not_mem, hf]
    intro hmem
    obtain ⟨a, ha, rfl⟩ := List.mem_map.1 hmem
    obtain ⟨b, hb, hid, -⟩ := exists_of_mem_bindingTier ha
    obtain ⟨g, hg, hunset, -⟩ := unset_of_envBindings hbs hb
    exact not_mem_provided hg hunset (mem_provided_iff.2 ⟨f, hid ▸ hf, hset⟩)

theorem shape_fillFromEnv (o : ParseOptions) (x : KeyIndex) (c : Chain) :
    (c.fillFromEnv o x).state.shape = c.shape := by
  obtain ⟨-, e⟩ | ⟨p, e⟩ | ⟨bs, -, -, e⟩ := fillFromEnv_cases o x c <;> rw [e]
  exact shape_carryOut ..

/-- A flag of the tier was not set, and has the strings of the first of its keys that is bound. -/
theorem firstBound_of_mem_envTier {id : FlagId} (hid : id ∈ places (c.envTier o)) :
    ∃ f key text, c.flagAt? id = some f ∧ f.isSet = false ∧
      FirstBound o.env (o.rules.keys f) key text ∧
      rawsAt id (c.envTier o) = envStrings o.envSplit text ∧
      ∀ a ∈ c.envTier o, a.id = id → a.origin = .env key := by
  unfold envTier at hid ⊢
  split_ifs at hid ⊢ with henv
  · cases hbs : c.envBindings (KeyIndex.ofChain o.rules c) o.env with
    | error e =>
      rw [hbs] at hid
      cases hid
    | ok bs =>
      rw [hbs] at hid
      have hnodup := nodup_of_envBindings hbs
      obtain ⟨a, ha, rfl⟩ := List.mem_map.1 hid
      obtain ⟨b, hb, hab, -⟩ := exists_of_mem_bindingTier ha
      obtain ⟨f, hf, hunset, hfound⟩ := unset_of_envBindings hbs hb
      rw [KeyIndex.keysAt_ofChain o.rules hf] at hfound
      refine ⟨f, b.key, b.value, hab ▸ hf, hunset, firstBound_of_consultEnv hfound, ?_, ?_⟩
      · rw [hab]
        exact rawsAt_bindingTier hnodup hb
      · intro a' ha' hid'
        obtain ⟨b', hb', hab', ho⟩ := exists_of_mem_bindingTier ha'
        have hbb : b' = b := List.inj_on_of_nodup_map hnodup hb' hb (by rw [← hab', hid', hab])
        rw [ho, hbb]
  · cases hid

end Chain

end LayeredFlags
