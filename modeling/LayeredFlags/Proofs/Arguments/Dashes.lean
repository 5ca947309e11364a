import LayeredFlags.Proofs.Arguments.Forms
import LayeredFlags.Proofs.Arguments.Positions

/-!
# One dash and two

In compatibility mode the same names stand behind one dash and behind two.  Either way an argument
does the same to a chain, leaves the same arguments over, or fails alike: only the name that a
failure shows has the dashes that were written.
-/

namespace LayeredFlags

variable {body name : String}

/-! ## Tokens -/

/-- What stands behind the dashes of a long flag. -/
def longBody (name : String) : (explicit : Option String) → String
  | none => name
  | some value => name ++ "=" ++ value

/-- A long flag has the name before the first equals sign, and the value behind it, whatever its
dashes. -/
theorem FlagToken.ofBody_eq_long (body : String) :
    ∃ name explicit, '=' ∉ name.toList ∧ body = longBody name explicit ∧
      ∀ dashes, ofBody dashes body.toList = .long dashes name explicit := by
  by_cases hsign : '=' ∈ body.toList
  · obtain ⟨name, value, hbody, hname⟩ := List.eq_append_cons_of_mem hsign
    refine ⟨.ofList name, some (.ofList value), ?_, String.toList_inj.1 ?_, fun dashes => ?_⟩
    · rwa [String.toList_ofList]
    · simp [longBody, hbody]
    · rw [ofBody, hbody, Text.cutWhere?_append (ne_eq_sign_of_not_mem hname) rfl]
  · refine ⟨body, none, hsign, rfl, fun dashes => ?_⟩
    rw [ofBody, Text.cutWhere?_of_forall_not (ne_eq_sign_of_not_mem hsign), String.ofList_toList]

/-- In compatibility mode one dash makes a long flag. -/
theorem ArgToken.ofArg_dash (hbody : body ≠ "") (hhead : body.toList.head? ≠ some '-') :
    ofArg true ("-" ++ body) = .flag (.ofBody "-" body.toList) :=
  ofArg_of_one_dash (by simp) (by simpa using hbody) hhead

theorem ArgToken.ofArg_dashes {compat : Bool} (hbody : body ≠ "") :
    ofArg compat ("--" ++ body) = .flag (.ofBody "--" body.toList) :=
  ofArg_of_body (by simp) (by simpa using hbody)

/-! ## Failures -/

/-- Failures that are the same, or show the same name behind one dash and behind two. -/
inductive DifferInDashes (name : String) : FlagError → FlagError → Prop
  | same (e : FlagError) : DifferInDashes name e e
  | unknownFlag :
      DifferInDashes name (.unknownFlag ("-" ++ name)) (.unknownFlag ("--" ++ name))
  | missingValue :
      DifferInDashes name (.missingValue ("-" ++ name)) (.missingValue ("--" ++ name))

theorem DifferInDashes.kind_eq {e e' : FlagError} (h : DifferInDashes name e e') :
    e.kind = e'.kind := by
  cases h <;> rfl

theorem DifferInDashes.message {e e' : FlagError} (h : DifferInDashes name e e') :
    e.message = e'.message ∨
      ∃ words, e.message = words ++ ("-" ++ name) ∧ e'.message = words ++ ("--" ++ name) := by
  cases h with
  | same => exact .inl rfl
  | unknownFlag => exact .inr ⟨_, rfl, rfl⟩
  | missingValue => exact .inr ⟨_, rfl, rfl⟩

namespace Chain

variable {c : Chain}

theorem kind_mem_of_readArgs {args : List String} {e : FlagError}
    (h : (c.readArgs args).outcome = .error e) :
    e.kind ∈ [.helpRequested, .unknownFlag, .missingValue, .valueRejected] := by
  obtain hplan | ⟨flag, raw, problem, hrejected⟩ := outcome_readArgs_cases args c
  · cases planFailure_of_plan (hplan.symm.trans h) <;> simp [FlagError.kind]
  · rw [hrejected] at h
    cases h
    simp [FlagError.kind]

/-! ## Readings -/

/-- The dashes of a long flag matter to nothing but the name in a failure. -/
theorem runLong_dashes_cases (c : Chain) (name : String) (explicit next : Option String) :
    (∀ dashes dashes',
      c.runLong dashes name explicit next = c.runLong dashes' name explicit next) ∨
    (∀ dashes,
      c.runLong dashes name explicit next = ⟨c, .error (.unknownFlag (dashes ++ name))⟩) ∨
    ∀ dashes,
      c.runLong dashes name explicit next = ⟨c, .error (.missingValue (dashes ++ name))⟩ := by
  unfold runLong
  cases c.locateLong name with
  | none =>
    by_cases hhelp : (Text.asciiLower name = "help" || (c.own.compat && name = "h")) = true
    · exact .inl fun dashes dashes' => by simp only [unclaimedLong, if_pos hhelp]
    · exact .inr (.inl fun dashes => by simp only [unclaimedLong, if_neg hhelp])
  | some id =>
    by_cases hb : c.isBoolAt id = true
    · exact .inl fun _ _ => by simp only [if_pos hb]
    · simp only [if_neg hb]
      cases explicit with
      | some value => exact .inl fun _ _ => rfl
      | none =>
        cases next with
        | some value => exact .inl fun _ _ => rfl
        | none => exact .inr (.inr fun _ => rfl)

theorem readArgs_of_tokens {arg arg' : String} {token token' : FlagToken} {rest : List String}
    (htoken : ArgToken.ofArg c.own.compat arg = .flag token)
    (htoken' : ArgToken.ofArg c.own.compat arg' = .flag token')
    (hrun : c.runFlag rest.head? token = c.runFlag rest.head? token') :
    c.readArgs (arg :: rest) = c.readArgs (arg' :: rest) := by
  simp only [readArgs, htoken, htoken', hrun]

theorem readArgs_dashes_cases (hcompat : c.own.compat = true)
    (hhead : body.toList.head? ≠ some '-') (rest : List String) :
    ∃ name explicit, '=' ∉ name.toList ∧ body = longBody name explicit ∧
      (c.readArgs (("-" ++ body) :: rest) = c.readArgs (("--" ++ body) :: rest) ∨
        ∃ e e', c.readArgs (("-" ++ body) :: rest) = ⟨c, .error e⟩ ∧
          c.readArgs (("--" ++ body) :: rest) = ⟨c, .error e'⟩ ∧ DifferInDashes name e e') := by
  by_cases hbody : body = ""
  · -- there is no name: the dashes alone end the flags, one as well as two
    subst hbody
    refine ⟨"", none, List.not_mem_nil, rfl, .inl ?_⟩
    have hterminator (dashes : String) (h : IsTerminator dashes) :
        c.readArgs ((dashes ++ "") :: rest) = ⟨c, .ok rest⟩ := by
      rw [String.append_empty, readArgs_of_endsFlags (.inr h), leftoversFrom, if_pos h]
    rw [hterminator "-" (.inl rfl), hterminator "--" (.inr rfl)]
  obtain ⟨name, explicit, hname, heq, htoken⟩ := FlagToken.ofBody_eq_long body
  refine ⟨name, explicit, hname, heq, ?_⟩
  have hone : ArgToken.ofArg c.own.compat ("-" ++ body) = .flag (.long "-" name explicit) := by
    rw [hcompat, ArgToken.ofArg_dash hbody hhead, htoken]
  have htwo : ArgToken.ofArg c.own.compat ("--" ++ body) = .flag (.long "--" name explicit) := by
    rw [ArgToken.ofArg_dashes hbody, htoken]
  obtain hrun | hrun | hrun := c.runLong_dashes_cases name explicit rest.head?
  · exact .inl (readArgs_of_tokens hone htwo (hrun "-" "--"))
  · exact .inr ⟨_, _, readArgs_of_failing hone (hrun "-"), readArgs_of_failing htwo (hrun "--"),
      .unknownFlag⟩
  · exact .inr ⟨_, _, readArgs_of_failing hone (hrun "-"), readArgs_of_failing htwo (hrun "--"),
      .missingValue⟩

/-- In compatibility mode an argument is read alike behind one dash and behind two: the same chain
comes of it, with the same leftovers, or with failures of one kind that differ at most in the
dashes of the flag they name. -/
theorem readArgs_dashes (hcompat : c.own.compat = true) (hhead : body.toList.head? ≠ some '-')
    (rest : List String) :
    (c.readArgs (("-" ++ body) :: rest)).chain = (c.readArgs (("--" ++ body) :: rest)).chain ∧
    ((∃ leftovers, (c.readArgs (("-" ++ body) :: rest)).outcome = .ok leftovers ∧
        (c.readArgs (("--" ++ body) :: rest)).outcome = .ok leftovers) ∨
      ∃ e e', (c.readArgs (("-" ++ body) :: rest)).outcome = .error e ∧
        (c.readArgs (("--" ++ body) :: rest)).outcome = .error e' ∧ e.kind = e'.kind ∧
        e.kind ∈ [.helpRequested, .unknownFlag, .missingValue, .valueRejected] ∧
        ∃ name explicit, '=' ∉ name.toList ∧ body = longBody name explicit ∧
          DifferInDashes name e e' ∧
          (e.message = e'.message ∨
            ∃ words, e.message = words ++ ("-" ++ name) ∧
              e'.message = words ++ ("--" ++ name))) := by
  obtain ⟨name, explicit, hname, hbody, hsame | ⟨e, e', hone, htwo, hdiffer⟩⟩ :=
    readArgs_dashes_cases hcompat hhead rest
  · refine ⟨congrArg ArgReading.chain hsame, ?_⟩
    cases hout : (c.readArgs (("-" ++ body) :: rest)).outcome with
    | ok leftovers => exact .inl ⟨leftovers, rfl, hsame ▸ hout⟩
    | error e =>
      exact .inr ⟨e, e, rfl, hsame ▸ hout, rfl, kind_mem_of_readArgs hout, name, explicit, hname,
        hbody, .same e, .inl rfl⟩
  · have hkind := kind_mem_of_readArgs (congrArg ArgReading.outcome hone)
    refine ⟨by rw [hone, htwo], .inr ⟨e, e', by rw [hone], by rw [htwo], hdiffer.kind_eq, hkind,
      ?_⟩⟩
    exact ⟨name, explicit, hname, hbody, hdiffer, hdiffer.message⟩

/-- A chain in compatibility mode. -/
def compatChain : Chain :=
  { grownChain with own := { grownChain.own with compat := true } }

theorem readArgs_dashes_sample :
    compatChain.own.compat = true ∧ "tag".toList.head? ≠ some '-' ∧
      (compatChain.readArgs ["-tag"]).chain = (compatChain.readArgs ["--tag"]).chain ∧
      ∃ e e', (compatChain.readArgs ["-tag"]).outcome = .error e ∧
        (compatChain.readArgs ["--tag"]).outcome = .error e' ∧
        e.message = "missing value for flag -tag" ∧
        e'.message = "missing value for flag --tag" ∧ e.kind = e'.kind := by
  have hcompat : compatChain.own.compat = true := rfl
  have hhead : "tag".toList.head? ≠ some '-' := by decide
  have hone : (compatChain.readArgs ["-tag"]).outcome = .error (.missingValue "-tag") := by
    decide +kernel
  have htwo : (compatChain.readArgs ["--tag"]).outcome = .error (.missingValue "--tag") := by
    decide +kernel
  obtain ⟨hchain, ⟨leftovers, hok, -⟩ | ⟨e, e', he, he', hkind, -⟩⟩ :=
    readArgs_dashes hcompat hhead []
  · cases hone.symm.trans hok
  · obtain rfl := Except.error.inj (hone.symm.trans he)
    obtain rfl := Except.error.inj (htwo.symm.trans he')
    exact ⟨hcompat, hhead, hchain, _, _, hone, htwo, rfl, rfl, hkind⟩

end Chain

end LayeredFlags
