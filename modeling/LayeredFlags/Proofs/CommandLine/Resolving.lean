import LayeredFlags.CommandLine.Run
import LayeredFlags.Proofs.Resolution.Failures

/-!
# Resolving

A command that resolves builds the set of its manifest, parses the arguments on it, and prints a
report on what the parse made of it, unless that failed.
-/

namespace LayeredFlags

variable {w : World} {q : ResolveRequest} {s : FlagSet} {path : String} {words : List String}

namespace ResolveRequest

/-- What a request parses its arguments on. -/
def chain (q : ResolveRequest) (s : FlagSet) : Chain :=
  ⟨{ s with compat := s.compat || q.compat }, []⟩

/-- The parse of a request. -/
def attempt (q : ResolveRequest) (w : World) (s : FlagSet) : Attempt Chain :=
  (q.chain s).parse (q.options w.env w.openFile) q.args

/-- A request prints a report behind a parse that succeeds, and the usage where the parse ends with
a request for help; any other failure is its own. -/
theorem text_cases (q : ResolveRequest) (w : World) (s : FlagSet) :
    ((q.attempt w s).failure = none ∧
        q.text w s = .ok ((Report.ofSet (q.attempt w s).state.own).text q.reportFormat)) ∨
      ((q.attempt w s).failure = some .helpRequested ∧
        q.text w s = .ok (q.attempt w s).state.own.usageText) ∨
      ∃ e, (q.attempt w s).failure = some e ∧ e ≠ .helpRequested ∧
        q.text w s = .error (.flags e) := by
  unfold text attempt chain
  dsimp only
  generalize Chain.parse _ _ _ = a
  obtain ⟨c, failure⟩ := a
  cases failure with
  | none => exact .inl ⟨rfl, rfl⟩
  | some e =>
    by_cases he : e = .helpRequested
    · subst he
      exact .inr (.inl ⟨rfl, rfl⟩)
    · refine .inr (.inr ⟨e, rfl, he, ?_⟩)
      cases e <;> first | rfl | exact absurd rfl he

theorem text_of_none (h : (q.attempt w s).failure = none) :
    q.text w s = .ok ((Report.ofSet (q.attempt w s).state.own).text q.reportFormat) := by
  obtain ⟨-, ht⟩ | ⟨h', -⟩ | ⟨e, h', -⟩ := q.text_cases w s
  · exact ht
  · cases h.symm.trans h'
  · cases h.symm.trans h'

theorem text_of_helpRequested (h : (q.attempt w s).failure = some .helpRequested) :
    q.text w s = .ok (q.attempt w s).state.own.usageText := by
  obtain ⟨h', -⟩ | ⟨-, ht⟩ | ⟨e, h', hne, -⟩ := q.text_cases w s
  · cases h.symm.trans h'
  · exact ht
  · exact absurd (Option.some.inj (h'.symm.trans h)) hne

theorem text_eq_error_iff {e : FlagError} : q.text w s = .error (.flags e) ↔
    (q.attempt w s).failure = some e ∧ e ≠ .helpRequested := by
  obtain ⟨h, ht⟩ | ⟨h, ht⟩ | ⟨e', h, hne, ht⟩ := q.text_cases w s <;> rw [h, ht]
  · simp
  · simp [eq_comm]
  · simp only [Except.error.injEq, CommandError.flags.injEq, Option.some.injEq]
    constructor
    · rintro rfl
      exact ⟨rfl, hne⟩
    · exact And.left

end ResolveRequest

theorem World.flagSet_eq_ok_iff : w.flagSet path = .ok s ↔
    ∃ m, Manifest.load w.openFile path = .ok m ∧ m.build = .ok s := by
  unfold flagSet
  cases Manifest.load w.openFile path with
  | error cause => simp
  | ok m => cases hm : m.build <;> simp [hm]

namespace CommandLine

variable {command : Command} {text : String} {cause : CommandError}

theorem run_eq_printed_iff (hc : command? words = some command) :
    run w words = .printed text ↔ command.text w = .ok text := by
  simp only [run, hc]
  cases command.text w <;> simp

theorem run_eq_failed_iff (hc : command? words = some command) :
    run w words = .failed cause ↔ command.text w = .error cause := by
  simp only [run, hc]
  cases command.text w <;> simp

theorem run_of_flagSet_error (hc : command? words = some (.resolve path q))
    (hs : w.flagSet path = .error cause) : run w words = .failed cause := by
  rw [run_eq_failed_iff hc, Command.text, hs]
  rfl

theorem run_of_flagSet (hc : command? words = some (.resolve path q))
    (hs : w.flagSet path = .ok s) :
    run w words = match q.text w s with
      | .ok text => .printed text
      | .error cause => .failed cause := by
  have htext : Command.text w (.resolve path q) = q.text w s := by
    rw [Command.text, hs]
    rfl
  cases h : q.text w s with
  | ok text => exact (run_eq_printed_iff hc).2 (htext.trans h)
  | error cause => exact (run_eq_failed_iff hc).2 (htext.trans h)

end CommandLine

/-! ## Samples -/

/-- What resolving is asked to do where only a stem for keys is given, and YAML is to be printed. -/
def prefixedRequest (stem : String) (args : List String) : ResolveRequest where
  envEnabled := false
  rules := { stem := some stem }
  envSplit := none
  configFile := none
  configFormat := none
  allowMissing := false
  ignoreUndefined := false
  compat := false
  reportFormat := .yaml
  args

end LayeredFlags
