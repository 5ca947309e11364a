import LayeredFlags.Proofs.Arguments.Plan
import LayeredFlags.Proofs.Forest.History

/-!
# Equivalent forms

A value may stand behind an equals sign or in the next argument, behind a short letter or in the
next argument, and switches may share a dash or have one each.  The forms of one thing have the
same plan, so they are read alike: the same chain comes of them, the same leftover arguments and
the same failure.
-/

namespace LayeredFlags

/-! ## Tokens -/

theorem ne_eq_sign_of_not_mem {s : List Char} (h : '=' ∉ s) : ∀ c ∈ s, (c == '=') = false := by
  intro c hc
  rw [beq_eq_false_iff_ne]
  rintro rfl
  exact h hc

namespace ArgToken

open FlagNames

variable {compat : Bool} {name value : String} {letter : Char}

theorem ofArg_terminator (compat : Bool) : ofArg compat "--" = .terminator := rfl

theorem ofArg_of_body {arg : String} {body : List Char} (harg : arg.toList = '-' :: '-' :: body)
    (hbody : body ≠ []) : ofArg compat arg = .flag (.ofBody "--" body) := by
  unfold ofArg
  rw [harg]
  cases body with
  | nil => exact absurd rfl hbody
  | cons c body => rfl

/-- A long name is read as such, without a value. -/
theorem ofArg_dashedLong (hname : name ≠ "") (heq : '=' ∉ name.toList) :
    ofArg compat (dashedLong name) = .flag (.long "--" name none) := by
  have harg : (dashedLong name).toList = '-' :: '-' :: name.toList := by simp [dashedLong]
  have hbody : name.toList ≠ [] := by simpa using hname
  rw [ofArg_of_body harg hbody, FlagToken.ofBody,
    Text.cutWhere?_of_forall_not (ne_eq_sign_of_not_mem heq), String.ofList_toList]

/-- Everything behind the first equals sign is the value of a long name. -/
theorem ofArg_dashedLong_append (heq : '=' ∉ name.toList) (value : String) :
    ofArg compat (dashedLong name ++ "=" ++ value) = .flag (.long "--" name (some value)) := by
  have harg : (dashedLong name ++ "=" ++ value).toList =
      '-' :: '-' :: (name.toList ++ '=' :: value.toList) := by
    simp [dashedLong]
  rw [ofArg_of_body harg (by simp), FlagToken.ofBody,
    Text.cutWhere?_append (ne_eq_sign_of_not_mem heq) rfl]
  simp

/-- Behind one dash there is a long flag in compatibility mode, and else the letters of short
flags. -/
theorem ofArg_of_one_dash {arg : String} {body : List Char} (harg : arg.toList = '-' :: body)
    (hne : body ≠ []) (hdash : body.head? ≠ some '-') :
    ofArg compat arg = .flag (if compat then .ofBody "-" body else .short body) := by
  unfold ofArg
  rw [harg]
  split
  next h => exact absurd (List.cons.inj h).2 hne
  next h =>
    rw [(List.cons.inj h).2] at hdash
    exact absurd rfl hdash
  next h =>
    rw [(List.cons.inj h).2] at hdash
    exact absurd rfl hdash
  next h => rw [(List.cons.inj h).2]
  next h => exact absurd rfl (h _)

/-- Outside compatibility mode, every character behind one dash is a letter of its own. -/
theorem ofArg_of_letters {arg : String} {letters : List Char} (hcompat : compat = false)
    (harg : arg.toList = '-' :: letters) (hne : letters ≠ []) (hdash : letters.head? ≠ some '-') :
    ofArg compat arg = .flag (.short letters) := by
  rw [ofArg_of_one_dash harg hne hdash, hcompat, if_neg Bool.false_ne_true]

theorem ofArg_dashedShort_append (hcompat : compat = false) (hletter : letter ≠ '-')
    (rest : String) :
    ofArg compat (dashedShort letter ++ rest) = .flag (.short (letter :: rest.toList)) := by
  refine ofArg_of_letters hcompat ?_ (List.cons_ne_nil letter _) ?_
  · simp [dashedShort]
  · simpa using hletter

theorem ofArg_dashedShort (hcompat : compat = false) (hletter : letter ≠ '-') :
    ofArg compat (dashedShort letter) = .flag (.short [letter]) := by
  have h := ofArg_dashedShort_append hcompat hletter ""
  rwa [String.append_empty] at h

end ArgToken

namespace Chain

open FlagNames

variable {c : Chain} {id : FlagId} {n v : String} {letter : Char} {rest : List String}

/-! ## Names that are located -/

/-- A name of a long token that a flag answers to is not empty and holds no equals sign. -/
theorem name_of_locateLong (hw : c.WellNamed) (h : c.locateLong n = some id) :
    n ≠ "" ∧ '=' ∉ n.toList := by
  obtain ⟨f, hf, hn⟩ := flagAt?_of_locate h
  obtain ⟨hshort, hlong, -⟩ := allowed_of_problem? (problem?_of_wellNamed hw hf)
  have hnames : f.names.short.map String.singleton = some n ∨ f.names.long = some n := by
    rcases Bool.or_eq_true_iff.1 hn with hn | hn
    · exact .inr (hasLong_iff.1 hn)
    · exact answersTo_iff.1 (Bool.and_eq_true_iff.1 hn).2
  rcases hnames with hn | hn
  · obtain ⟨letter, hs, rfl⟩ := Option.map_eq_some_iff.1 hn
    have hletter := ne_eq_sign_of_shortAllowed (hshort letter hs)
    exact ⟨by simp, by simpa [eq_comm] using hletter⟩
  · exact of_longAllowed (hlong n hn)

theorem letter_of_locateShort (hw : c.WellNamed) (h : c.locateShort letter = some id) :
    letter ≠ '-' := by
  obtain ⟨f, hf, hn⟩ := flagAt?_of_locate h
  obtain ⟨hshort, -⟩ := allowed_of_problem? (problem?_of_wellNamed hw hf)
  exact ne_dash_of_shortAllowed (hshort letter (hasShort_iff.1 hn))

theorem ne_empty_of_boolLiteral? (h : (boolLiteral? v).isSome = true) : v ≠ "" := by
  rintro rfl
  revert h
  decide

/-! ## Plans of single tokens -/

theorem plan_of_kept {arg : String} {token : FlagToken} {as : List Assignment}
    (htoken : ArgToken.ofArg c.own.compat arg = .flag token)
    (hplan : c.planFlag rest.head? token = ⟨as, .ok false⟩) :
    c.plan (arg :: rest) = (c.plan rest).after as := by
  simp only [plan, htoken, hplan]

theorem plan_of_taken {arg next : String} {token : FlagToken} {as : List Assignment}
    (htoken : ArgToken.ofArg c.own.compat arg = .flag token)
    (hplan : c.planFlag (some next) token = ⟨as, .ok true⟩) :
    c.plan (arg :: next :: rest) = (c.plan rest).after as := by
  simp only [plan, htoken, List.head?_cons, hplan]

/-! ## Plans of long flags -/

/-- Behind an equals sign stands a value that is assigned as it is, unless it is an empty one for
a switch. -/
theorem plan_long_value (hw : c.WellNamed) (h : c.locateLong n = some id)
    (hv : c.isBoolAt id = true → v ≠ "") (rest : List String) :
    c.plan ((dashedLong n ++ "=" ++ v) :: rest) = (c.plan rest).after [⟨id, v⟩] := by
  refine plan_of_kept (ArgToken.ofArg_dashedLong_append (name_of_locateLong hw h).2 v) ?_
  simp only [planFlag, planLong, h]
  by_cases hb : c.isBoolAt id = true
  · rw [if_pos hb, if_neg (hv hb)]
  · rw [if_neg hb]

/-- The next argument is the value of a flag that is no switch, or a literal for a switch. -/
theorem plan_long_next (hw : c.WellNamed) (h : c.locateLong n = some id)
    (hv : c.isBoolAt id = true → (boolLiteral? v).isSome = true) (rest : List String) :
    c.plan (dashedLong n :: v :: rest) = (c.plan rest).after [⟨id, v⟩] := by
  obtain ⟨hne, heq⟩ := name_of_locateLong hw h
  refine plan_of_taken (ArgToken.ofArg_dashedLong hne heq) ?_
  simp only [planFlag, planLong, h]
  by_cases hb : c.isBoolAt id = true
  · rw [if_pos hb, Option.filter_some, if_pos (hv hb)]
  · rw [if_neg hb]

/-- A switch without a literal behind it is turned on. -/
theorem plan_long_bare (hw : c.WellNamed) (h : c.locateLong n = some id)
    (hb : c.isBoolAt id = true) (hrest : ∀ t ∈ rest.head?, boolLiteral? t = none) :
    c.plan (dashedLong n :: rest) = (c.plan rest).after [⟨id, "true"⟩] := by
  obtain ⟨hne, heq⟩ := name_of_locateLong hw h
  refine plan_of_kept (ArgToken.ofArg_dashedLong hne heq) ?_
  have hnone : rest.head?.filter (fun raw => (boolLiteral? raw).isSome) = none := by
    rw [Option.filter_eq_none_iff]
    intro t ht
    rw [hrest t ht]
    exact Bool.false_ne_true
  simp only [planFlag, planLong, h, if_pos hb, hnone]

/-! ## Plans of short flags -/

/-- The letters behind a short flag that is no switch are its value. -/
theorem plan_short_value (hw : c.WellNamed) (hcompat : c.own.compat = false)
    (h : c.locateShort letter = some id) (hb : c.isBoolAt id = false) (hv : v ≠ "")
    (rest : List String) :
    c.plan ((dashedShort letter ++ v) :: rest) = (c.plan rest).after [⟨id, v⟩] := by
  have hletter := letter_of_locateShort hw h
  refine plan_of_kept (ArgToken.ofArg_dashedShort_append hcompat hletter v) ?_
  cases hletters : v.toList with
  | nil => exact absurd (by simpa using hletters) hv
  | cons d ds =>
    simp only [planFlag, planShort, h, hb, if_neg Bool.false_ne_true]
    rw [← hletters, String.ofList_toList]

/-- The next argument is the value of a short flag that is no switch. -/
theorem plan_short_next (hw : c.WellNamed) (hcompat : c.own.compat = false)
    (h : c.locateShort letter = some id) (hb : c.isBoolAt id = false) (v : String)
    (rest : List String) :
    c.plan (dashedShort letter :: v :: rest) = (c.plan rest).after [⟨id, v⟩] := by
  have hletter := letter_of_locateShort hw h
  refine plan_of_taken (ArgToken.ofArg_dashedShort hcompat hletter) ?_
  simp only [planFlag, planShort, h, hb, if_neg Bool.false_ne_true]

/-- A short switch is turned on. -/
theorem plan_short_bare (hw : c.WellNamed) (hcompat : c.own.compat = false)
    (h : c.locateShort letter = some id) (hb : c.isBoolAt id = true) (rest : List String) :
    c.plan (dashedShort letter :: rest) = (c.plan rest).after [⟨id, "true"⟩] := by
  have hletter := letter_of_locateShort hw h
  refine plan_of_kept (ArgToken.ofArg_dashedShort hcompat hletter) ?_
  simp only [planFlag, planShort, h, if_pos hb]
  rfl

/-- Letters behind a short switch may as well have a dash of their own. -/
theorem plan_short_bundle (hw : c.WellNamed) (hcompat : c.own.compat = false)
    (h : c.locateShort letter = some id) (hb : c.isBoolAt id = true) (hv : v ≠ "")
    (hdash : v.toList.head? ≠ some '-') (rest : List String) :
    c.plan ((dashedShort letter ++ v) :: rest) =
      (c.plan (("-" ++ v) :: rest)).after [⟨id, "true"⟩] := by
  have hletters : v.toList ≠ [] := by simpa using hv
  have hbundle := ArgToken.ofArg_dashedShort_append hcompat (letter_of_locateShort hw h) v
  have htail : ArgToken.ofArg c.own.compat ("-" ++ v) = .flag (.short v.toList) :=
    ArgToken.ofArg_of_letters hcompat (by simp) hletters hdash
  have hplan : c.planFlag rest.head? (.short (letter :: v.toList)) =
      (c.planFlag rest.head? (.short v.toList)).after [⟨id, "true"⟩] := by
    simp only [planFlag, planShort, h, if_pos hb]
  rw [plan, plan, hbundle, htail]
  simp only [hplan]
  obtain ⟨as, outcome⟩ := c.planFlag rest.head? (.short v.toList)
  cases outcome with
  | error e => rfl
  | ok takesNext =>
    cases takesNext with
    | false => rfl
    | true => cases rest <;> rfl

/-! ## Readings -/

/-- Lists of one plan are read alike. -/
theorem readArgs_eq_of_plan {args args' : List String} (h : c.plan args = c.plan args') :
    c.readArgs args = c.readArgs args' := by
  rw [readArgs_eq_carryOut, readArgs_eq_carryOut, h]

/-- The forms of a value, of a bundle and of a switch are read alike, whatever stands behind
them. -/
theorem readArgs_forms {calls : List Call} {i : Nat} (hc : (Forest.after calls).chain? i = some c)
    (rest : List String) :
    (∀ n v id, c.locateLong n = some id → c.isBoolAt id = false →
      c.readArgs ((dashedLong n ++ "=" ++ v) :: rest) = c.readArgs (dashedLong n :: v :: rest)) ∧
    (∀ letter v id, c.own.compat = false → c.locateShort letter = some id →
      c.isBoolAt id = false → v ≠ "" →
        c.readArgs ((dashedShort letter ++ v) :: rest) =
          c.readArgs (dashedShort letter :: v :: rest)) ∧
    (∀ letter v id, c.own.compat = false → c.locateShort letter = some id →
      c.isBoolAt id = true → v ≠ "" → v.toList.head? ≠ some '-' →
        c.readArgs ((dashedShort letter ++ v) :: rest) =
          c.readArgs (dashedShort letter :: ("-" ++ v) :: rest)) ∧
    (∀ n v id, c.locateLong n = some id → c.isBoolAt id = true →
      (boolLiteral? v).isSome = true →
        c.readArgs (dashedLong n :: v :: rest) =
          c.readArgs ((dashedLong n ++ "=" ++ v) :: rest)) ∧
    ∀ n id, c.locateLong n = some id → c.isBoolAt id = true →
      (∀ t ∈ rest.head?, boolLiteral? t = none) →
        c.readArgs (dashedLong n :: rest) =
          c.readArgs ((dashedLong n ++ "=" ++ "true") :: rest) := by
  have hw := wellNamed_of_history hc
  refine ⟨fun n v id h hb => ?_, fun letter v id hcompat h hb hv => ?_,
    fun letter v id hcompat h hb hv hdash => ?_, fun n v id h hb hv => ?_,
    fun n id h hb hrest => ?_⟩ <;> apply readArgs_eq_of_plan
  · have hno : ¬ c.isBoolAt id = true := by simp [hb]
    rw [plan_long_value hw h (fun hb => absurd hb hno),
      plan_long_next hw h (fun hb => absurd hb hno)]
  · rw [plan_short_value hw hcompat h hb hv, plan_short_next hw hcompat h hb]
  · rw [plan_short_bundle hw hcompat h hb hv hdash, plan_short_bare hw hcompat h hb]
  · rw [plan_long_next hw h (fun _ => hv),
      plan_long_value hw h (fun _ => ne_empty_of_boolLiteral? hv)]
  · rw [plan_long_bare hw h hb hrest, plan_long_value hw h (fun _ => by decide)]

theorem readArgs_forms_sample :
    (Forest.after sampleHistory).chain? 0 = some grownChain ∧
      grownChain.readArgs ["--tag=-x", "-q"] = grownChain.readArgs ["--tag", "-x", "-q"] ∧
      grownChain.readArgs ["-n7", "-q"] = grownChain.readArgs ["-n", "7", "-q"] ∧
      grownChain.readArgs ["-vn7", "-q"] = grownChain.readArgs ["-v", "-n7", "-q"] ∧
      grownChain.readArgs ["--verbose", "F", "-q"] = grownChain.readArgs ["--verbose=F", "-q"] ∧
      grownChain.readArgs ["--verbose", "-q"] = grownChain.readArgs ["--verbose=true", "-q"] := by
  have hc : (Forest.after sampleHistory).chain? 0 = some grownChain := chain?_sampleHistory
  obtain ⟨hvalue, hshort, hbundle, hliteral, hbare⟩ := readArgs_forms hc ["-q"]
  refine ⟨hc, ?_, ?_, ?_, ?_, ?_⟩
  · exact hvalue "tag" "-x" ⟨0, 0⟩ (by decide +kernel) (by decide +kernel)
  · exact hshort 'n' "7" ⟨0, 1⟩ rfl (by decide +kernel) (by decide +kernel) (by decide)
  · exact hbundle 'v' "n7" ⟨1, 0⟩ rfl (by decide +kernel) (by decide +kernel) (by decide)
      (by decide +kernel)
  · exact hliteral "verbose" "F" ⟨1, 0⟩ (by decide +kernel) (by decide +kernel) (by decide)
  · exact hbare "verbose" ⟨1, 0⟩ (by decide +kernel) (by decide +kernel) (by decide +kernel)

end Chain

end LayeredFlags
