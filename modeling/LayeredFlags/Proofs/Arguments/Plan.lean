import LayeredFlags.Proofs.Arguments.Log
import LayeredFlags.Proofs.Chain.Assigning

/-!
# Argument plans

What an argument list asks of a chain: the assignments in order, and then the leftover arguments
or the failure that ends the reading.  A plan looks at the shape of the chain only, never at a
value.  Reading the arguments carries their plan out, up to the first assignment that is refused.
-/

namespace LayeredFlags

/-- What is to be assigned from the command line, and what comes of the reading then. -/
structure ArgPlan (α : Type) where
  assignments : List Assignment
  outcome : Except FlagError α

namespace ArgPlan

variable {α : Type}

/-- The plan behind some earlier assignments. -/
def after (earlier : List Assignment) (p : ArgPlan α) : ArgPlan α :=
  { p with assignments := earlier ++ p.assignments }

/-- The reading that carries out a plan. -/
def carryOut (p : ArgPlan α) (c : Chain) : ArgReading α :=
  match Chain.assignAll .args p.assignments c with
  | ⟨c, none⟩ => ⟨c, p.outcome⟩
  | ⟨c, some e⟩ => ⟨c, .error e⟩

/-- The log of carrying out a plan. -/
def log (p : ArgPlan α) (c : Chain) : ArgLog α :=
  logEach p.outcome p.assignments c
where
  /-- The log of assignments with something that comes behind them. -/
  logEach (outcome : Except FlagError α) : List Assignment → Chain → ArgLog α
    | [], c => .ending c outcome
    | a :: rest, c => .assigning c a (logEach outcome rest)

theorem chain_carryOut (p : ArgPlan α) (c : Chain) :
    (p.carryOut c).chain = (Chain.assignAll .args p.assignments c).state := by
  unfold carryOut
  obtain ⟨d, _ | e⟩ := Chain.assignAll .args p.assignments c <;> rfl

theorem carryOut_of_none {p : ArgPlan α} {c : Chain}
    (h : (Chain.assignAll .args p.assignments c).failure = none) :
    p.carryOut c = ⟨(Chain.assignAll .args p.assignments c).state, p.outcome⟩ := by
  unfold carryOut
  generalize Chain.assignAll .args p.assignments c = a at h ⊢
  obtain ⟨d, failure⟩ := a
  cases h
  rfl

theorem carryOut_of_some {p : ArgPlan α} {c : Chain} {e : FlagError}
    (h : (Chain.assignAll .args p.assignments c).failure = some e) :
    p.carryOut c = ⟨(Chain.assignAll .args p.assignments c).state, .error e⟩ := by
  unfold carryOut
  generalize Chain.assignAll .args p.assignments c = a at h ⊢
  obtain ⟨d, failure⟩ := a
  cases h
  rfl

end ArgPlan

namespace Chain

variable {c d : Chain}

/-! ## Plans -/

/-- The plan of a long flag. -/
def planLong (c : Chain) (dashes name : String) (explicit next : Option String) :
    ArgPlan Bool :=
  match c.locateLong name with
  | none => ⟨[], .error (c.unclaimedLong dashes name)⟩
  | some id =>
    if c.isBoolAt id then
      match explicit with
      | some value => ⟨[⟨id, if value = "" then "true" else value⟩], .ok false⟩
      | none =>
        match next.filter fun raw => (boolLiteral? raw).isSome with
        | some literal => ⟨[⟨id, literal⟩], .ok true⟩
        | none => ⟨[⟨id, "true"⟩], .ok false⟩
    else
      match explicit, next with
      | some value, _ => ⟨[⟨id, value⟩], .ok false⟩
      | none, some value => ⟨[⟨id, value⟩], .ok true⟩
      | none, none => ⟨[], .error (.missingValue (dashes ++ name))⟩

/-- The plan of a bundle of short flags. -/
def planShort (c : Chain) (next : Option String) : List Char → ArgPlan Bool
  | [] => ⟨[], .ok false⟩
  | letter :: rest =>
    match c.locateShort letter with
    | none => ⟨[], .error (unclaimedShort letter)⟩
    | some id =>
      if c.isBoolAt id then (planShort c next rest).after [⟨id, "true"⟩]
      else
        match rest, next with
        | _ :: _, _ => ⟨[⟨id, String.ofList rest⟩], .ok false⟩
        | [], some value => ⟨[⟨id, value⟩], .ok true⟩
        | [], none => ⟨[], .error (.missingValue (FlagNames.dashedShort letter))⟩

/-- The plan of a token that names flags. -/
def planFlag (c : Chain) (next : Option String) : FlagToken → ArgPlan Bool
  | .long dashes name explicit => c.planLong dashes name explicit next
  | .short letters => c.planShort next letters

/-- The plan of an argument list. -/
def plan (c : Chain) : List String → ArgPlan (List String)
  | [] => ⟨[], .ok []⟩
  | arg :: rest =>
    match ArgToken.ofArg c.own.compat arg with
    | .positional => ⟨[], .ok (arg :: rest)⟩
    | .terminator => ⟨[], .ok rest⟩
    | .flag token =>
      match c.planFlag rest.head? token with
      | ⟨as, .error e⟩ => ⟨as, .error e⟩
      | ⟨as, .ok false⟩ => (plan c rest).after as
      | ⟨as, .ok true⟩ =>
        match rest with
        | [] => ⟨as, .ok []⟩
        | _ :: more => (plan c more).after as

/-! ## Plans depend on the skeleton only -/

theorem planLong_of_skeleton (h : c.skeleton = d.skeleton) (dashes name : String)
    (explicit next : Option String) :
    c.planLong dashes name explicit next = d.planLong dashes name explicit next := by
  unfold planLong
  rw [locateLong_of_skeleton h, unclaimedLong_of_skeleton h]
  cases d.locateLong name with
  | none => rfl
  | some id => simp only [isBoolAt_of_skeleton h]

theorem planShort_of_skeleton (h : c.skeleton = d.skeleton) (next : Option String)
    (letters : List Char) : c.planShort next letters = d.planShort next letters := by
  induction letters with
  | nil => rfl
  | cons letter rest ih =>
    unfold planShort
    rw [locateShort_of_skeleton h, ih]
    cases d.locateShort letter with
    | none => rfl
    | some id => simp only [isBoolAt_of_skeleton h]

theorem planFlag_of_skeleton (h : c.skeleton = d.skeleton) (next : Option String)
    (token : FlagToken) : c.planFlag next token = d.planFlag next token := by
  cases token with
  | long dashes name explicit => exact planLong_of_skeleton h dashes name explicit next
  | short letters => exact planShort_of_skeleton h next letters

theorem plan_of_skeleton (h : c.skeleton = d.skeleton) (args : List String) :
    c.plan args = d.plan args := by
  induction args using plan.induct c <;>
    simp only [plan, ← compat_of_skeleton h, ← planFlag_of_skeleton h, *]

/-! ## What plans are made of -/

/-- The plan of a long flag: a name without a flag, one assignment to the flag of the name, or a
value that is missing.  The next argument is taken along only to be assigned. -/
theorem planLong_cases (c : Chain) (dashes name : String) (explicit next : Option String) :
    (c.locateLong name = none ∧
        c.planLong dashes name explicit next = ⟨[], .error (c.unclaimedLong dashes name)⟩) ∨
      (∃ id raw takesNext, c.locateLong name = some id ∧ (takesNext = true → next = some raw) ∧
        c.planLong dashes name explicit next = ⟨[⟨id, raw⟩], .ok takesNext⟩) ∨
      c.planLong dashes name explicit next = ⟨[], .error (.missingValue (dashes ++ name))⟩ := by
  unfold planLong
  cases c.locateLong name with
  | none => exact .inl ⟨rfl, rfl⟩
  | some id =>
    refine .inr ?_
    by_cases hb : c.isBoolAt id = true
    · simp only [if_pos hb]
      cases explicit with
      | some value => exact .inl ⟨id, _, false, rfl, nofun, rfl⟩
      | none =>
        cases hnext : next.filter fun raw => (boolLiteral? raw).isSome with
        | some literal =>
          have hliteral := (Option.filter_eq_some_iff.1 hnext).1
          exact .inl ⟨id, literal, true, rfl, fun _ => hliteral, rfl⟩
        | none => exact .inl ⟨id, _, false, rfl, nofun, rfl⟩
    · simp only [if_neg hb]
      cases explicit with
      | some value => exact .inl ⟨id, _, false, rfl, nofun, rfl⟩
      | none =>
        cases next with
        | some value => exact .inl ⟨id, value, true, rfl, fun _ => rfl, rfl⟩
        | none => exact .inr rfl

/-- The plan of a bundle that begins with a letter: the letter has no flag, its flag is turned on
before the rest, or takes its only value, or the value is missing. -/
theorem planShort_cases (c : Chain) (next : Option String) (letter : Char) (rest : List Char) :
    (c.locateShort letter = none ∧
        c.planShort next (letter :: rest) = ⟨[], .error (unclaimedShort letter)⟩) ∨
      (∃ id, c.locateShort letter = some id ∧
        (c.planShort next (letter :: rest) = (c.planShort next rest).after [⟨id, "true"⟩] ∨
          ∃ raw takesNext, (takesNext = true → next = some raw) ∧
            c.planShort next (letter :: rest) = ⟨[⟨id, raw⟩], .ok takesNext⟩)) ∨
      c.planShort next (letter :: rest) =
        ⟨[], .error (.missingValue (FlagNames.dashedShort letter))⟩ := by
  generalize hrest : c.planShort next rest = p
  unfold planShort
  cases c.locateShort letter with
  | none => exact .inl ⟨rfl, rfl⟩
  | some id =>
    refine .inr ?_
    by_cases hb : c.isBoolAt id = true
    · simp only [if_pos hb]
      exact .inl ⟨id, rfl, .inl (congrArg _ hrest)⟩
    · simp only [if_neg hb]
      cases rest with
      | cons letter' rest => exact .inl ⟨id, rfl, .inr ⟨_, false, nofun, rfl⟩⟩
      | nil =>
        cases next with
        | some value => exact .inl ⟨id, rfl, .inr ⟨value, true, fun _ => rfl, rfl⟩⟩
        | none => exact .inr rfl

/-- What holds where the flags end or a token fails, and behind the assignments of a token if it
holds of the rest, holds of the plans of all lists. -/
theorem plan_rec {motive : List String → ArgPlan (List String) → Prop}
    (ended : ∀ args leftovers, leftovers <:+ args → motive args ⟨[], .ok leftovers⟩)
    (failed : ∀ args next token e, (c.planFlag next token).outcome = .error e →
      motive args ⟨(c.planFlag next token).assignments, .error e⟩)
    (behind : ∀ args rest next token p, rest <:+ args → motive rest p →
      motive args (p.after (c.planFlag next token).assignments))
    (args : List String) : motive args (c.plan args) := by
  induction args using plan.induct c with
  | case1 => exact ended [] [] List.suffix_rfl
  | case2 arg rest htoken =>
    simp only [plan, htoken]
    exact ended _ _ List.suffix_rfl
  | case3 arg rest htoken =>
    simp only [plan, htoken]
    exact ended _ _ (List.suffix_cons arg rest)
  | case4 arg rest token htoken as e hplan =>
    simp only [plan, htoken, hplan]
    have := failed (arg :: rest) rest.head? token e (congrArg ArgPlan.outcome hplan)
    rwa [hplan] at this
  | case5 arg rest token htoken as hplan ih =>
    simp only [plan, htoken, hplan]
    have := behind (arg :: rest) rest rest.head? token _ (List.suffix_cons arg rest) ih
    rwa [hplan] at this
  | case6 arg token htoken as hplan =>
    simp only [plan, htoken, hplan]
    have := behind [arg] [] none token _ List.nil_suffix (ended [] [] List.suffix_rfl)
    rwa [show (c.planFlag none token).assignments = as from congrArg ArgPlan.assignments hplan,
      ArgPlan.after, List.append_nil] at this
  | case7 arg token htoken as next more hplan ih =>
    simp only [plan, htoken, hplan]
    have hmore : more <:+ arg :: next :: more :=
      (List.suffix_cons next more).trans (List.suffix_cons arg _)
    have := behind (arg :: next :: more) more (some next) token _ hmore ih
    rwa [show (c.planFlag (some next) token).assignments = as from
      congrArg ArgPlan.assignments hplan] at this

/-! ## How plans fail -/

/-- What a plan may fail with: nothing that depends on a value. -/
inductive PlanFailure : FlagError → Prop
  | unknownFlag (name : String) : PlanFailure (.unknownFlag name)
  | helpRequested : PlanFailure .helpRequested
  | missingValue (flag : String) : PlanFailure (.missingValue flag)

theorem planFailure_unclaimedLong (c : Chain) (dashes name : String) :
    PlanFailure (c.unclaimedLong dashes name) := by
  unfold unclaimedLong
  split_ifs
  · exact .helpRequested
  · exact .unknownFlag _

theorem planFailure_unclaimedShort (letter : Char) : PlanFailure (unclaimedShort letter) := by
  unfold unclaimedShort
  split_ifs
  · exact .helpRequested
  · exact .unknownFlag _

theorem planFailure_of_planFlag {next : Option String} {token : FlagToken} {e : FlagError}
    (h : (c.planFlag next token).outcome = .error e) : PlanFailure e := by
  cases token with
  | long dashes name explicit =>
    obtain ⟨-, hplan⟩ | ⟨id, raw, takesNext, -, -, hplan⟩ | hplan :=
      c.planLong_cases dashes name explicit next <;> rw [planFlag, hplan] at h <;> cases h
    · exact planFailure_unclaimedLong c dashes name
    · exact .missingValue _
  | short letters =>
    change (c.planShort next letters).outcome = .error e at h
    induction letters with
    | nil => cases h
    | cons letter rest ih =>
      obtain ⟨-, hplan⟩ | ⟨id, -, hplan | ⟨raw, takesNext, -, hplan⟩⟩ | hplan :=
        c.planShort_cases next letter rest <;> rw [hplan] at h
      · cases h
        exact planFailure_unclaimedShort letter
      · exact ih h
      · cases h
      · cases h
        exact .missingValue _

theorem planFailure_of_plan {args : List String} {e : FlagError}
    (h : (c.plan args).outcome = .error e) : PlanFailure e := by
  revert e
  refine plan_rec (motive := fun _ p => ∀ {e}, p.outcome = .error e → PlanFailure e) ?_ ?_ ?_ args
  · intro args leftovers _ e h
    cases h
  · intro args next token e' htoken e h
    cases h
    exact planFailure_of_planFlag htoken
  · intro args rest next token p _ ih e h
    exact ih h

/-! ## What plans leave over -/

theorem suffix_of_plan {args leftovers : List String}
    (h : (c.plan args).outcome = .ok leftovers) : leftovers <:+ args := by
  revert leftovers
  refine plan_rec (motive := fun args p => ∀ {l}, p.outcome = .ok l → l <:+ args) ?_ ?_ ?_ args
  · intro args leftovers hsuffix l h
    cases h
    exact hsuffix
  · intro args next token e _ l h
    cases h
  · intro args rest next token p hrest ih l h
    exact (ih h).trans hrest

/-! ## Plans assign flags of the chain -/

theorem hasPlaces_planFlag (c : Chain) (next : Option String) (token : FlagToken) :
    c.HasPlaces (c.planFlag next token).assignments := by
  intro a ha
  have located {id : FlagId} {p : Flag → Bool} {raw : String} (hid : c.locate p = some id)
      (h : a = ⟨id, raw⟩) : ∃ f, c.flagAt? a.id = some f := by
    obtain ⟨f, hf, -⟩ := flagAt?_of_locate hid
    exact ⟨f, h ▸ hf⟩
  cases token with
  | long dashes name explicit =>
    obtain ⟨-, hplan⟩ | ⟨id, raw, takesNext, hid, -, hplan⟩ | hplan :=
      c.planLong_cases dashes name explicit next <;> rw [planFlag, hplan] at ha
    · cases ha
    · exact located hid (List.mem_singleton.1 ha)
    · cases ha
  | short letters =>
    change a ∈ (c.planShort next letters).assignments at ha
    induction letters with
    | nil => cases ha
    | cons letter rest ih =>
      obtain ⟨-, hplan⟩ | ⟨id, hid, hplan | ⟨raw, takesNext, -, hplan⟩⟩ | hplan :=
        c.planShort_cases next letter rest <;> rw [hplan] at ha
      · cases ha
      · rcases List.mem_cons.1 ha with ha | ha
        · exact located hid ha
        · exact ih ha
      · exact located hid (List.mem_singleton.1 ha)
      · cases ha

/-- A plan assigns nothing but flags of the chain. -/
theorem hasPlaces_plan (c : Chain) (args : List String) :
    c.HasPlaces (c.plan args).assignments := by
  refine plan_rec (motive := fun _ p => c.HasPlaces p.assignments) ?_ ?_ ?_ args
  · intro args leftovers _ a ha
    cases ha
  · intro args next token e _
    exact hasPlaces_planFlag c next token
  · intro args rest next token p _ ih a ha
    rcases List.mem_append.1 ha with ha | ha
    · exact hasPlaces_planFlag c next token a ha
    · exact ih a ha

/-! ## Reading carries out the plan -/

theorem assigning_congr {α : Type} {a : Assignment} {next next' : Chain → ArgLog α}
    (h : ∀ d, d.shape = c.shape → next d = next' d) :
    ArgLog.assigning c a next = ArgLog.assigning c a next' := by
  have hshape := shape_assign c a.id a.raw .args
  unfold ArgLog.assigning
  generalize c.assign a.id a.raw .args = r at hshape ⊢
  obtain ⟨d, _ | e⟩ := r
  · exact congrArg (·.behind [a]) (h d hshape)
  · rfl

/-- Assignments that are all accepted stand in the log before what is planned behind them. -/
theorem log_after_of_accepted {α : Type} {as : List Assignment}
    (h : assignAll .args as c = ⟨d, none⟩) (p : ArgPlan α) :
    (p.after as).log c = (p.log d).behind as := by
  induction as generalizing c with
  | nil =>
    cases h
    rfl
  | cons a as ih =>
    obtain ⟨c', ha, has⟩ := Attempt.andThen_eq_mk_none_iff.1 h
    have hlog : (p.after (a :: as)).log c = .assigning c a (p.after as).log := rfl
    rw [hlog, ArgLog.assigning_of_ok ha, ih has, ArgLog.behind_behind, List.singleton_append]

theorem log_of_accepted {α : Type} {p : ArgPlan α}
    (h : assignAll .args p.assignments c = ⟨d, none⟩) :
    p.log c = ⟨p.assignments, none, d, p.outcome⟩ := by
  have hlog := log_after_of_accepted h (⟨[], p.outcome⟩ : ArgPlan α)
  simp only [ArgPlan.after, List.append_nil] at hlog
  rw [hlog, ArgPlan.log, ArgPlan.log.logEach, ArgLog.ending, ArgLog.behind, List.append_nil]

/-- An assignment that is refused ends the log behind those before it. -/
theorem log_of_refused {α : Type} {p : ArgPlan α} {made todo : List Assignment} {a : Assignment}
    {e : FlagError} (hp : p.assignments = made ++ a :: todo)
    (h : assignAll .args made c = ⟨d, none⟩)
    (hassign : d.assign a.id a.raw .args = ⟨d, some e⟩) :
    p.log c = ⟨made, some a, d, .error e⟩ := by
  let rest : ArgPlan α := ⟨a :: todo, p.outcome⟩
  have hsplit : p = rest.after made := by rw [ArgPlan.after, ← hp]
  have hlog : rest.log d = .assigning d a (ArgPlan.log ⟨todo, p.outcome⟩) := rfl
  rw [hsplit, log_after_of_accepted h, hlog, ArgLog.assigning_of_error hassign, ArgLog.behind,
    List.append_nil]

theorem logLong_eq_log (c : Chain) (dashes name : String) (explicit next : Option String) :
    c.logLong dashes name explicit next = (c.planLong dashes name explicit next).log c := by
  unfold logLong planLong
  cases c.locateLong name with
  | none => rfl
  | some id =>
    by_cases hb : c.isBoolAt id = true
    · simp only [if_pos hb]
      cases explicit with
      | some value => rfl
      | none => cases next.filter fun raw => (boolLiteral? raw).isSome <;> rfl
    · simp only [if_neg hb]
      cases explicit with
      | some value => rfl
      | none => cases next <;> rfl

theorem logShort_eq_log (next : Option String) (letters : List Char) (c : Chain) :
    c.logShort next letters = (c.planShort next letters).log c := by
  induction letters generalizing c with
  | nil => rfl
  | cons letter rest ih =>
    unfold logShort planShort
    cases c.locateShort letter with
    | none => rfl
    | some id =>
      by_cases hb : c.isBoolAt id = true
      · simp only [if_pos hb]
        -- the letters behind mean on the new chain what they meant on the old one
        refine assigning_congr fun d hd => ?_
        rw [ih d, planShort_of_skeleton (skeleton_of_shape hd)]
        rfl
      · simp only [if_neg hb]
        cases rest with
        | cons letter' rest => rfl
        | nil => cases next <;> rfl

theorem logFlag_eq_log (c : Chain) (next : Option String) (token : FlagToken) :
    c.logFlag next token = (c.planFlag next token).log c := by
  cases token with
  | long dashes name explicit => exact logLong_eq_log c dashes name explicit next
  | short letters => exact logShort_eq_log next letters c

/-- Assignments are all accepted, and what is planned behind them goes on from a chain of the same
shape; or one is refused, and that is the end of every plan that begins with them. -/
theorem log_cases (as : List Assignment) (c : Chain) :
    (∃ d, d.shape = c.shape ∧ ∀ {α : Type},
        (∀ outcome, ArgPlan.log (α := α) ⟨as, outcome⟩ c = ⟨as, none, d, outcome⟩) ∧
        ∀ p : ArgPlan α, (p.after as).log c = (p.log d).behind as) ∨
      ∃ made a d e, ∀ {α : Type} (p : ArgPlan α), as <+: p.assignments →
        p.log c = ⟨made, some a, d, .error e⟩ := by
  obtain ⟨d, has⟩ | ⟨made, a, todo, d, e, rfl, hmade, ha⟩ := assignAll_cases .args as c
  · have hd := shape_assignAll .args as c
    rw [has] at hd
    exact .inl ⟨d, hd, fun _ => log_of_accepted has, log_after_of_accepted has⟩
  · refine .inr ⟨made, a, d, e, fun p hp => ?_⟩
    obtain ⟨more, hmore⟩ := hp
    rw [List.append_assoc, List.cons_append] at hmore
    exact log_of_refused hmore.symm hmade ha

/-- The log of an argument list is that of its plan: the plan knows every assignment beforehand, as
no assignment changes what the arguments behind it mean. -/
theorem logArgs_eq_log : ∀ (args : List String) (c : Chain), c.logArgs args = (c.plan args).log c
  | [], _ => rfl
  | arg :: rest, c => by
    unfold logArgs plan
    cases ArgToken.ofArg c.own.compat arg with
    | positional => rfl
    | terminator => rfl
    | flag token =>
      simp only [logFlag_eq_log]
      obtain ⟨as, outcome⟩ := c.planFlag rest.head? token
      obtain ⟨d, hd, hlog⟩ | ⟨made, a, d, e, hlog⟩ := log_cases as c
      · -- on the chain behind the token the rest is planned as it is on this one
        have hrest {args : List String} (ih : d.logArgs args = (d.plan args).log d) :
            (d.logArgs args).behind as = ((c.plan args).after as).log c := by
          rw [ih, hlog.2, plan_of_skeleton (skeleton_of_shape hd)]
        rw [hlog.1]
        cases outcome with
        | error e => exact (hlog.1 _).symm
        | ok takesNext =>
          cases takesNext with
          | false => exact hrest (logArgs_eq_log rest d)
          | true =>
            cases rest with
            | nil =>
              rw [hlog.1]
              simp only [ArgLog.behind, ArgLog.ending, List.append_nil]
            | cons _ more => exact hrest (logArgs_eq_log more d)
      · rw [hlog _ List.prefix_rfl]
        cases outcome with
        | error e => exact (hlog _ List.prefix_rfl).symm
        | ok takesNext =>
          cases takesNext with
          | false => exact (hlog _ (List.prefix_append ..)).symm
          | true =>
            cases rest with
            | nil => exact (hlog _ List.prefix_rfl).symm
            | cons _ more => exact (hlog _ (List.prefix_append ..)).symm

theorem reading_log {α : Type} (p : ArgPlan α) (c : Chain) : (p.log c).reading = p.carryOut c := by
  obtain ⟨as, outcome⟩ := p
  induction as generalizing c with
  | nil => rfl
  | cons a as ih =>
    have hlog : ArgPlan.log ⟨a :: as, outcome⟩ c = .assigning c a (ArgPlan.log ⟨as, outcome⟩) := rfl
    have hall : assignAll .args (a :: as) c =
      (c.assign a.id a.raw .args).andThen (assignAll .args as) := rfl
    rw [hlog, ArgPlan.carryOut, hall]
    cases h : c.assign a.id a.raw .args with
    | mk d failure =>
      cases failure with
      | none =>
        rw [ArgLog.assigning_of_ok h, ArgLog.reading_behind, Attempt.andThen_mk_none]
        exact ih d
      | some e => rw [ArgLog.assigning_of_error h, Attempt.andThen_of_some rfl]

/-- Reading an argument list carries out its plan. -/
theorem readArgs_eq_carryOut (args : List String) (c : Chain) :
    c.readArgs args = (c.plan args).carryOut c := by
  rw [← reading_logArgs, logArgs_eq_log, reading_log]

theorem runFlag_eq_carryOut (c : Chain) (next : Option String) (token : FlagToken) :
    c.runFlag next token = (c.planFlag next token).carryOut c := by
  rw [← reading_logFlag, logFlag_eq_log, reading_log]

/-- What is carried out ends as planned, or with a value that refuses a string. -/
theorem outcome_carryOut_cases {α : Type} {p : ArgPlan α} (hp : c.HasPlaces p.assignments) :
    (p.carryOut c).outcome = p.outcome ∨
      ∃ flag raw problem, (p.carryOut c).outcome = .error (.valueRejected flag raw problem) := by
  rw [← reading_log]
  obtain ⟨d, h⟩ | ⟨made, a, todo, d, f, problem, hsplit, hmade, -, -, ha⟩ :=
    hp.assignAll_cases .args
  · rw [log_of_accepted h]
    exact .inl rfl
  · rw [log_of_refused hsplit hmade ha]
    exact .inr ⟨_, _, _, rfl⟩

/-- A reading ends as its plan does, or with a value that refuses a string. -/
theorem outcome_readArgs_cases (args : List String) (c : Chain) :
    (c.readArgs args).outcome = (c.plan args).outcome ∨
      ∃ flag raw problem, (c.readArgs args).outcome = .error (.valueRejected flag raw problem) := by
  rw [readArgs_eq_carryOut]
  exact outcome_carryOut_cases (hasPlaces_plan c args)

theorem suffix_of_readArgs {args leftovers : List String}
    (h : (c.readArgs args).outcome = .ok leftovers) : leftovers <:+ args := by
  obtain hplan | ⟨flag, raw, problem, hrejected⟩ := outcome_readArgs_cases args c
  · exact suffix_of_plan (hplan.symm.trans h)
  · rw [hrejected] at h
    cases h

end Chain

end LayeredFlags
