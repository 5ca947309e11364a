import LayeredFlags.Proofs.Forest.Step

/-!
# Life cycle of flag sets

After every history of calls the flags of a set come from the declarations that the set took, a flag
that is not set is as it was registered, a set that is not parsed has no leftover arguments, and a
set is parsed at most once between two resets.
-/

namespace LayeredFlags.Forest

variable {f : Forest} {s : FlagSet} {i : Nat} {calls : List Call}

/-! ## Histories -/

/-- The forest after some more calls. -/
def run (f : Forest) (calls : List Call) : Forest :=
  calls.foldl (fun f call => (f.perform call).state) f

/-- The declarations that a set takes in the course of some calls. -/
def registered (i : Nat) : Forest → List Call → List FlagDecl
  | _, [] => []
  | f, call :: rest => f.accepted i call ++ registered i (f.perform call).state rest

theorem run_cons (f : Forest) (call : Call) (rest : List Call) :
    f.run (call :: rest) = (f.perform call).state.run rest := rfl

theorem after_append (xs ys : List Call) : after (xs ++ ys) = (after xs).run ys :=
  List.foldl_append

/-- Every set holds the flags of its declarations, and no leftover arguments unless it is parsed. -/
structure InOrder (decls : Nat → List FlagDecl) (f : Forest) : Prop where
  acyclic : f.Acyclic
  tracks : ∀ i s, f.setAt? i = some s → s.Tracks (decls i)
  unmade : ∀ i, f.setAt? i = none → decls i = []
  leftovers : ∀ i s, f.setAt? i = some s → s.parsed = false → s.leftovers = []

theorem InOrder.perform {decls : Nat → List FlagDecl} (h : f.InOrder decls) {call : Call}
    (hcall : call.RegistersFresh) :
    (f.perform call).state.InOrder fun i => decls i ++ f.accepted i call := by
  refine ⟨acyclic_perform h.acyclic call, fun i t ht => ?_, fun i hi => ?_, fun i t ht => ?_⟩
  · obtain ⟨hs, name, rfl⟩ | ⟨s, hs, hstep⟩ := perform_cases h.acyclic ht
    · simp only [h.unmade i hs, accepted_of_none hs]
      exact .nil
    · exact hstep.tracks hs (h.tracks i s hs) hcall
  · cases hs : f.setAt? i with
    | none => rw [h.unmade i hs, accepted_of_none hs, List.append_nil]
    | some s =>
      obtain ⟨t', ht', -⟩ := exists_step h.acyclic hs call
      rw [hi] at ht'
      cases ht'
  · obtain ⟨-, name, rfl⟩ | ⟨s, hs, hstep⟩ := perform_cases h.acyclic ht
    · exact fun _ => rfl
    · exact hstep.leftovers_eq_nil (h.leftovers i s hs)

theorem InOrder.run {decls : Nat → List FlagDecl} (h : f.InOrder decls)
    (hcalls : ∀ call ∈ calls, call.RegistersFresh) :
    (f.run calls).InOrder fun i => decls i ++ registered i f calls := by
  induction calls generalizing f decls with
  | nil =>
    simp only [registered, List.append_nil]
    exact h
  | cons call rest ih =>
    have hstep := h.perform (hcalls call (List.mem_cons_self ..))
    have hrest := ih hstep fun call hc => hcalls call (List.mem_cons_of_mem _ hc)
    simp only [List.append_assoc] at hrest
    exact hrest

theorem inOrder_after (hcalls : ∀ call ∈ calls, call.RegistersFresh) :
    (after calls).InOrder fun i => registered i {} calls := by
  have hempty : InOrder (fun _ => []) {} :=
    ⟨acyclic_after [], nofun, fun _ _ => rfl, nofun⟩
  exact hempty.run hcalls

/-! ## Parses and resets -/

/-- The set with a number is parsed. -/
def ParsedAt (f : Forest) (i : Nat) : Prop :=
  ∃ s, f.setAt? i = some s ∧ s.parsed = true

theorem ParsedAt.perform (hf : f.Acyclic) (h : f.ParsedAt i) {call : Call}
    (hreset : ¬ (call = .reset i ∧ (f.perform call).failure = none)) :
    (f.perform call).state.ParsedAt i := by
  obtain ⟨s, hs, hparsed⟩ := h
  obtain ⟨t, ht, hstep⟩ := exists_step hf hs call
  exact ⟨t, ht, hstep.parsed hparsed hreset⟩

/-- Calls behind which a parsed set is no longer parsed have reset it. -/
theorem exists_reset (hf : f.Acyclic) (h : f.ParsedAt i) (hlost : ¬ (f.run calls).ParsedAt i) :
    ∃ before behind, calls = before ++ .reset i :: behind ∧
      ((f.run before).perform (.reset i)).failure = none := by
  induction calls generalizing f with
  | nil => exact absurd h hlost
  | cons call rest ih =>
    by_cases hreset : call = .reset i ∧ (f.perform call).failure = none
    · obtain ⟨rfl, hok⟩ := hreset
      exact ⟨[], rest, rfl, hok⟩
    · -- the set is still parsed behind this call, so it is reset later
      rw [run_cons] at hlost
      obtain ⟨before, behind, rfl, hok⟩ :=
        ih (acyclic_perform hf call) (h.perform hf hreset) hlost
      exact ⟨call :: before, behind, rfl, hok⟩

theorem parsedAt_of_parse (hf : f.Acyclic) (hs : f.setAt? i = some s) {call : Call}
    (hcall : call.Parses i) (hok : (f.perform call).failure = none) :
    ¬ f.ParsedAt i ∧ (f.perform call).state.ParsedAt i := by
  obtain ⟨t, ht, hstep⟩ := exists_step hf hs call
  obtain ⟨hfresh, hparsed⟩ := hstep.of_parse hcall hok
  refine ⟨?_, t, ht, hparsed⟩
  rintro ⟨s', hs', hparsed'⟩
  obtain rfl := Option.some.inj (hs.symm.trans hs')
  rw [hfresh] at hparsed'
  cases hparsed'

/-- A parse of a parsed set fails and changes nothing. -/
theorem perform_parse_of_parsed (hs : f.setAt? i = some s) (hparsed : s.parsed = true)
    (o : ParseOptions) (args : List String) :
    f.perform (.parse i o args) = ⟨f, some (.alreadyParsed s.name)⟩ := by
  obtain ⟨c, hc⟩ := exists_chain? (lt_of_setAt? hs)
  obtain rfl := Option.some.inj (hs.symm.trans (setAt?_of_chain? hc))
  exact onChain_of_failure hc (if_pos hparsed)

/-- The life cycle of the sets in a history of calls. -/
structure LifeCycle (calls : List Call) : Prop where
  /-- A set has a flag for each declaration that it took, in order.  The flag is set just when a
  tier or a direct assignment is recorded, and while it is not it has the value of its
  declaration. -/
  flags : ∀ i s, (after calls).setAt? i = some s →
    List.Forall₂ (fun d g => (g.isSet = true ↔ g.origin.isSome = true) ∧
      (g.isSet = false → g.value = d.value ∧ g.text = g.default))
      (registered i {} calls) s.flags
  leftovers : ∀ i s, (after calls).setAt? i = some s → s.parsed = false → s.leftovers = []
  parse_again : ∀ i s o args, (after calls).setAt? i = some s → s.parsed = true →
    (after calls).perform (.parse i o args) = ⟨after calls, some (.alreadyParsed s.name)⟩
  /-- Between two parses of a set that succeed there is a reset of it that succeeds. -/
  reset_between : ∀ i o o' args args' earlier between later,
    calls = earlier ++ .parse i o args :: between ++ .parse i o' args' :: later →
    (after earlier).setAt? i ≠ none →
    ((after earlier).perform (.parse i o args)).failure = none →
    ((after (earlier ++ .parse i o args :: between)).perform (.parse i o' args')).failure = none →
      ∃ before behind, between = before ++ .reset i :: behind ∧
        ((after (earlier ++ .parse i o args :: before)).perform (.reset i)).failure = none

/-- Every history of calls that registers fresh built-in values keeps to the life cycle, whichever
of its calls fail. -/
theorem lifeCycle_after (hcalls : ∀ call ∈ calls, call.RegistersFresh) : LifeCycle calls := by
  have horder := inOrder_after hcalls
  refine ⟨fun i s hs => ?_, horder.leftovers, fun i s o args hs hparsed =>
    perform_parse_of_parsed hs hparsed o args, ?_⟩
  · refine (horder.tracks i s hs).imp fun d g hd => ⟨by rw [hd.isSet_eq], fun hunset => ?_⟩
    exact ⟨by rw [hd.eq_of_unset hunset]; rfl, hd.text_eq_default hunset⟩
  · intro i o o' args args' earlier between later _ hmade hfirst hsecond
    obtain ⟨s, hs⟩ := Option.ne_none_iff_exists'.1 hmade
    have hacyclic := acyclic_after earlier
    have hnext := acyclic_perform hacyclic (.parse i o args)
    have hparses : (Call.parse i o args).Parses i := rfl
    obtain ⟨-, hparsed⟩ := parsedAt_of_parse hacyclic hs hparses hfirst
    have hrun (calls : List Call) : after (earlier ++ .parse i o args :: calls) =
        ((after earlier).perform (.parse i o args)).state.run calls := by
      rw [after_append, run_cons]
    rw [hrun] at hsecond
    -- had the set stayed parsed, the second parse would have failed
    have hlost : ¬ (((after earlier).perform (.parse i o args)).state.run between).ParsedAt i := by
      rintro ⟨t, ht, hparsed⟩
      rw [perform_parse_of_parsed ht hparsed] at hsecond
      cases hsecond
    obtain ⟨before, behind, e, hok⟩ := exists_reset hnext hparsed hlost
    exact ⟨before, behind, e, by rwa [hrun]⟩

/-- A parse fails, one succeeds, one comes too early and one comes behind a reset. -/
def sampleLife : List Call × List Call :=
  (Chain.sampleHistory ++ [.parse 0 {} ["--tag=a", "-n", "x"]],
    [.parse 0 {} [], .set 1 "verbose" "maybe", .reset 0])

theorem lifeCycle_after_sample :
    let calls := sampleLife.1 ++ .parse 0 {} ["-v", "rest"] :: sampleLife.2 ++ [.parse 0 {} ["-q"]]
    (∀ call ∈ calls, call.RegistersFresh) ∧ LifeCycle calls ∧
      ∃ before behind, sampleLife.2 = before ++ .reset 0 :: behind ∧
        ((after (sampleLife.1 ++ .parse 0 {} ["-v", "rest"] :: before)).perform
          (.reset 0)).failure = none := by
  intro calls
  have hfresh : ∀ call ∈ calls, call.RegistersFresh := by
    simp [calls, sampleLife, Chain.sampleHistory, Chain.sampleDecls, Call.RegistersFresh,
      Value.fresh_ofDefault, Value.fresh_ofDefaults, Value.fresh_ofBool]
  have hlife := lifeCycle_after hfresh
  refine ⟨hfresh, hlife, ?_⟩
  refine hlife.reset_between 0 {} {} _ ["-q"] sampleLife.1 sampleLife.2 [] rfl ?_ ?_ ?_
  · exact Option.some_ne_none _
  · decide +kernel
  · decide +kernel

end LayeredFlags.Forest
