import LayeredFlags.Proofs.Arguments.Plan

/-!
# Readings factor through plans

Chains that agree in everything but their values have one plan for an argument list, and every
reading of the list follows it: to its end if no value refuses a string, and otherwise up to the
string that is refused.
-/

namespace LayeredFlags

/-- A value refused a string that was read. -/
def ArgReading.Rejected {α : Type} (r : ArgReading α) : Prop :=
  ∃ flag raw problem, r.outcome = .error (.valueRejected flag raw problem)

namespace Chain

variable {c d : Chain}

/-- How the reading of an argument list follows a plan. -/
structure Follows (p : ArgPlan (List String)) (args : List String) (c : Chain) : Prop where
  /-- The log is one of the reading itself. -/
  reading : (c.logArgs args).reading = c.readArgs args
  /-- The assignments of the log, and no others, make the chain what it becomes. -/
  chain : assignAll .args (c.logArgs args).made c = ⟨(c.readArgs args).chain, none⟩
  /-- Where no value refuses a string, everything in the plan is done. -/
  through : ¬ (c.readArgs args).Rejected →
    (c.logArgs args).refused = none ∧ (c.logArgs args).made = p.assignments ∧
      (c.readArgs args).outcome = p.outcome
  /-- Where a value refuses a string, the plan is done up to the assignment of that string. -/
  stopped : (c.readArgs args).Rejected →
    ∃ a f problem, (c.logArgs args).refused = some a ∧
      (c.logArgs args).made ++ [a] <+: p.assignments ∧
      (c.readArgs args).chain.flagAt? a.id = some f ∧
      f.value.assign a.raw = .error problem ∧
      (c.readArgs args).outcome = .error (.valueRejected f.display a.raw problem)

theorem follows_plan (args : List String) (c : Chain) : c.Follows (c.plan args) args := by
  have hread := reading_logArgs args c
  have hlog := logArgs_eq_log args c
  obtain ⟨d, hall⟩ | ⟨made, a, todo, d, f, problem, hp, hmade, hf, hraw, ha⟩ :=
    (hasPlaces_plan c args).assignAll_cases .args
  · rw [log_of_accepted hall] at hlog
    rw [hlog] at hread
    have hnot : ¬ (c.readArgs args).Rejected := by
      rintro ⟨flag, raw, problem, h⟩
      rw [← hread] at h
      cases planFailure_of_plan h
    refine ⟨hlog ▸ hread, ?_, fun _ => ⟨?_, ?_, ?_⟩, fun h => absurd h hnot⟩
    · rw [hlog, ← hread]
      exact hall
    · rw [hlog]
    · rw [hlog]
    · rw [← hread]
  · rw [log_of_refused hp hmade ha] at hlog
    rw [hlog] at hread
    have hrejected : (c.readArgs args).Rejected := by
      rw [← hread]
      exact ⟨f.display, a.raw, problem, rfl⟩
    refine ⟨hlog ▸ hread, ?_, fun h => absurd hrejected h, fun _ => ⟨a, f, problem, ?_, ?_, ?_⟩⟩
    · rw [hlog, ← hread]
      exact hmade
    · rw [hlog]
    · rw [hlog, hp]
      exact ⟨todo, by rw [List.append_assoc, List.singleton_append]⟩
    · rw [← hread]
      exact ⟨hf, hraw, rfl⟩

/-- Chains of one skeleton, whatever their values, defaults, marks and origins, read an argument
list after one plan.  Where neither refuses a value they assign the same strings to the same flags
and end alike. -/
theorem readings_factor (h : c.skeleton = d.skeleton) (args : List String) :
    (∃ p, c.Follows p args ∧ d.Follows p args) ∧
      (¬ (c.readArgs args).Rejected → ¬ (d.readArgs args).Rejected →
        (c.logArgs args).made = (d.logArgs args).made ∧
          (c.readArgs args).outcome = (d.readArgs args).outcome) := by
  have hc : c.Follows (c.plan args) args := follows_plan args c
  have hd : d.Follows (c.plan args) args := by
    rw [plan_of_skeleton h]
    exact follows_plan args d
  refine ⟨⟨c.plan args, hc, hd⟩, fun hnc hnd => ?_⟩
  obtain ⟨-, hmc, hoc⟩ := hc.through hnc
  obtain ⟨-, hmd, hod⟩ := hd.through hnd
  exact ⟨hmc.trans hmd.symm, hoc.trans hod.symm⟩

/-- A set with a level and a switch, for any name, level and state of the switch. -/
def leveled (name : String) (level : Value) (verbose : Bool) : Chain where
  own :=
    { name
      flags := [.ofDecl { names := { short := some 'l', long := some "level" }, value := level },
        .ofDecl { names := { short := some 'v' }, value := .ofBool verbose }] }

theorem readings_factor_sample :
    let c := leveled "app" (.ofDefault .string (.string "")) true
    let d := leveled "tool" (.ofChoices ["low", "high"]) false
    let args := ["-v", "--level", "x", "-l", "y", "out"]
    c.skeleton = d.skeleton ∧
      (c.logArgs args).made = [⟨⟨0, 1⟩, "true"⟩, ⟨⟨0, 0⟩, "x"⟩, ⟨⟨0, 0⟩, "y"⟩] ∧
      (c.readArgs args).outcome = .ok ["out"] ∧ (d.readArgs args).Rejected ∧
      (d.logArgs args).made = [⟨⟨0, 1⟩, "true"⟩] ∧ (d.logArgs args).refused = some ⟨⟨0, 0⟩, "x"⟩ ∧
      ∃ p, c.Follows p args ∧ d.Follows p args := by
  intro c d args
  have hskeleton : c.skeleton = d.skeleton := by decide +kernel
  refine ⟨hskeleton, ?_, ?_, ?_, ?_, ?_, (readings_factor hskeleton _).1⟩
  · decide +kernel
  · decide +kernel
  · exact ⟨"--level", "x", .notAChoice ["low", "high"], by decide +kernel⟩
  · decide +kernel
  · decide +kernel

end Chain

end LayeredFlags
