import LayeredFlags.Proofs.Arguments.Forms

/-!
# Spellings of assignments

Every assignment can be written on a command line: with an equals sign behind a long name, or as
one or two arguments with a short name.  Reading what was written carries out just these
assignments, whatever the values look like.
-/

namespace LayeredFlags

/-! ## Spellings -/

/-- Names hold the preferred name of a flag. -/
def FlagNames.hasPreferredOf (n m : FlagNames) : Bool :=
  match m.long, m.short with
  | some l, _ => n.hasLong l
  | none, some c => n.hasShort c
  | none, none => false

namespace Flag

/-- The arguments that assign a string to a flag under its preferred name. -/
def spell (f : Flag) (raw : String) : List String :=
  match f.names.long, f.names.short with
  | some l, _ => [FlagNames.dashedLong l ++ "=" ++ raw]
  | none, some c =>
    if f.isBool then [FlagNames.dashedShort c] else [FlagNames.dashedShort c, raw]
  | none, none => []

/-- The strings that the arguments can hold: anything for a flag that is no switch, but a switch
needs a string behind a long name, and has nothing but truth behind a short one. -/
def CanSpell (f : Flag) (raw : String) : Prop :=
  f.isBool = true → if f.names.long.isSome then raw ≠ "" else raw = "true"

instance (f : Flag) (raw : String) : Decidable (f.CanSpell raw) :=
  inferInstanceAs (Decidable (_ → _))

end Flag

namespace Chain

variable {c : Chain} {a : Assignment} {as : List Assignment} {f : Flag} {rest : List String}

/-- The arguments of an assignment. -/
def spell (c : Chain) (a : Assignment) : List String :=
  ((c.flagAt? a.id).map (·.spell a.raw)).getD []

/-- The assignment is to a flag whose preferred name no nearer set holds, and has a string that can
be spelt. -/
def Spellable (c : Chain) (a : Assignment) : Prop :=
  ∃ f ∈ c.flagAt? a.id, f.CanSpell a.raw ∧
    ∀ s ∈ c.sets.take a.id.depth, ∀ g ∈ s.flags, g.names.hasPreferredOf f.names = false

instance (c : Chain) (a : Assignment) : Decidable (c.Spellable a) :=
  inferInstanceAs (Decidable (∃ f ∈ c.flagAt? a.id, _))

theorem isBoolAt_eq {id : FlagId} (hf : c.flagAt? id = some f) : c.isBoolAt id = f.isBool := by
  unfold isBoolAt
  rw [hf]
  rfl

/-! ## Plans of spellings -/

/-- The arguments of an assignment plan that assignment, whatever stands behind them. -/
theorem plan_spell_append (hw : c.WellNamed) (hcompat : c.own.compat = false)
    (ha : c.Spellable a) (rest : List String) :
    c.plan (c.spell a ++ rest) = (c.plan rest).after [a] := by
  obtain ⟨f, hf, hcan, hnear⟩ := ha
  rw [Option.mem_def] at hf
  obtain ⟨-, -, hnamed⟩ := FlagNames.allowed_of_problem? (problem?_of_wellNamed hw hf)
  have hbool := isBoolAt_eq hf
  unfold spell Flag.spell
  rw [hf, Option.map_some, Option.getD_some]
  unfold Flag.CanSpell at hcan
  unfold FlagNames.hasPreferredOf at hnear
  cases hl : f.names.long with
  | some l =>
    simp only [hl] at hcan hnear
    have hid := locateLong_of_wellNamed hw hcompat hf hl hnear
    exact plan_long_value hw hid (fun hb => hcan (hbool ▸ hb)) rest
  | none =>
    cases hs : f.names.short with
    | none => exact absurd hs (hnamed hl)
    | some letter =>
      simp only [hl, hs] at hcan hnear
      have hid := locateShort_of_wellNamed hw hf hs hnear
      by_cases hb : f.isBool = true
      · have hraw : a.raw = "true" := hcan hb
        have hplan := plan_short_bare hw hcompat hid (hbool.trans hb) rest
        rw [← hraw] at hplan
        simp only [if_pos hb]
        exact hplan
      · have hb' : c.isBoolAt a.id = false := by simpa [hbool] using hb
        simp only [if_neg hb]
        exact plan_short_next hw hcompat hid hb' a.raw rest

/-- What is spelt is planned, up to the terminator and with what stands behind it left over. -/
theorem plan_spelled (hw : c.WellNamed) (hcompat : c.own.compat = false)
    (has : ∀ a ∈ as, c.Spellable a) (rest : List String) :
    c.plan (as.flatMap c.spell ++ "--" :: rest) = ⟨as, .ok rest⟩ := by
  induction as with
  | nil => rw [List.flatMap_nil, List.nil_append, plan, ArgToken.ofArg_terminator]
  | cons a as ih =>
    have ha := has a (List.mem_cons_self ..)
    rw [List.flatMap_cons, List.append_assoc, plan_spell_append hw hcompat ha,
      ih fun b hb => has b (List.mem_cons_of_mem _ hb)]
    rfl

/-- Reading what is spelt makes the assignments in order and leaves over what stands behind the
terminator; the first assignment that its flag refuses ends this with the earlier ones made. -/
theorem readArgs_spelled {calls : List Call} {id : Nat}
    (hc : (Forest.after calls).chain? id = some c) (hcompat : c.own.compat = false)
    (has : ∀ a ∈ as, c.Spellable a) (rest : List String) :
    (∃ d, assignAll .args as c = ⟨d, none⟩ ∧
        c.readArgs (as.flatMap c.spell ++ "--" :: rest) = ⟨d, .ok rest⟩) ∨
      ∃ done a todo d f problem, as = done ++ a :: todo ∧ assignAll .args done c = ⟨d, none⟩ ∧
        d.flagAt? a.id = some f ∧ f.value.assign a.raw = .error problem ∧
        c.readArgs (as.flatMap c.spell ++ "--" :: rest) =
          ⟨d, .error (.valueRejected f.display a.raw problem)⟩ := by
  have hplaces : c.HasPlaces as := fun a ha => (has a ha).imp fun _ hf => hf.1
  rw [readArgs_eq_carryOut, plan_spelled (wellNamed_of_history hc) hcompat has rest, ← reading_log]
  obtain ⟨d, h⟩ | ⟨done, a, todo, d, f, problem, hsplit, hdone, hf, hvalue, ha⟩ :=
    hplaces.assignAll_cases .args
  · rw [log_of_accepted h]
    exact .inl ⟨d, h, rfl⟩
  · rw [log_of_refused hsplit hdone ha]
    exact .inr ⟨done, a, todo, d, f, problem, hsplit, hdone, hf, hvalue, rfl⟩

theorem readArgs_spelled_sample :
    let as : List Assignment := [⟨⟨0, 0⟩, "--x=y"⟩, ⟨⟨1, 0⟩, "0"⟩, ⟨⟨1, 1⟩, "true"⟩, ⟨⟨0, 1⟩, "-1"⟩]
    let args := ["--tag=--x=y", "--verbose=0", "-q", "-n", "-1", "--", "--tag", "z"]
    (Forest.after sampleHistory).chain? 0 = some grownChain ∧ grownChain.own.compat = false ∧
      (∀ a ∈ as, grownChain.Spellable a) ∧
      as.flatMap grownChain.spell ++ ["--", "--tag", "z"] = args ∧
      ((∃ d, assignAll .args as grownChain = ⟨d, none⟩ ∧
          grownChain.readArgs args = ⟨d, .ok ["--tag", "z"]⟩) ∨
        ∃ done a todo d f problem, as = done ++ a :: todo ∧
          assignAll .args done grownChain = ⟨d, none⟩ ∧ d.flagAt? a.id = some f ∧
          f.value.assign a.raw = .error problem ∧
          grownChain.readArgs args = ⟨d, .error (.valueRejected f.display a.raw problem)⟩) := by
  intro as args
  have hc : (Forest.after sampleHistory).chain? 0 = some grownChain := chain?_sampleHistory
  have has : ∀ a ∈ as, grownChain.Spellable a := by decide +kernel
  have hargs : as.flatMap grownChain.spell ++ ["--", "--tag", "z"] = args := by decide +kernel
  refine ⟨hc, rfl, has, hargs, ?_⟩
  rw [← hargs]
  exact readArgs_spelled hc rfl has ["--tag", "z"]

end Chain

end LayeredFlags
