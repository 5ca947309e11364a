import LayeredFlags.Proofs.Arguments.Positions
import LayeredFlags.Proofs.Chain.Names

/-!
# Requests for help

Names of flags are compared letter by letter, but a long name that no flag has asks for help in
capitals too.  So a chain with its own flags `h` and `help` gets everything that is spelt like their
names, and still leaves spellings such as `--HELP` that ask for help.
-/

namespace LayeredFlags

open FlagNames

/-- Names that spell `help` are longer than a letter. -/
theorem Text.ne_singleton_of_asciiLower {name : String} (h : asciiLower name = "help")
    (letter : Char) : String.singleton letter ≠ name := by
  rintro rfl
  have hletters := congrArg String.toList h
  simp [asciiLower] at hletters

namespace Chain

variable {c : Chain} {dashes name : String} {letter : Char}

/-! ## Names that no flag has -/

theorem locateShort_eq_none_iff :
    c.locateShort letter = none ↔ ∀ id f, c.flagAt? id = some f → f.names.short ≠ some letter := by
  simp only [locateShort, locate_eq_none_iff, ← Bool.not_eq_true, hasShort_iff, ne_eq]

theorem locateLong_eq_none_iff :
    c.locateLong name = none ↔
      ∀ id f, c.flagAt? id = some f → f.names.long ≠ some name ∧
        (c.own.compat = true → f.names.short.map String.singleton ≠ some name) := by
  have hnames (f : Flag) :
      (f.names.hasLong name || (c.own.compat && f.names.answersTo name)) = false ↔
        f.names.long ≠ some name ∧
          (c.own.compat = true → f.names.short.map String.singleton ≠ some name) := by
    rw [← Bool.not_eq_true, Bool.or_eq_true, Bool.and_eq_true, hasLong_iff, answersTo_iff]
    tauto
  simp only [locateLong, locate_eq_none_iff, hnames]

/-- A name that spells `help` can only be the long name of a flag. -/
theorem locateLong_eq_none_iff_of_help (h : Text.asciiLower name = "help") :
    c.locateLong name = none ↔ ∀ id f, c.flagAt? id = some f → f.names.long ≠ some name := by
  refine locateLong_eq_none_iff.trans ⟨fun hno id f hf => (hno id f hf).1, fun hno id f hf => ?_⟩
  refine ⟨hno id f hf, fun _ hshort => ?_⟩
  obtain ⟨letter, -, hletter⟩ := Option.map_eq_some_iff.1 hshort
  exact Text.ne_singleton_of_asciiLower h letter hletter

/-! ## Tokens that ask for help -/

theorem unclaimedLong_eq_help_iff :
    c.unclaimedLong dashes name = .helpRequested ↔
      Text.asciiLower name = "help" ∨ c.own.compat = true ∧ name = "h" := by
  unfold unclaimedLong
  split_ifs with h
  · simpa using h
  · simpa using h

theorem unclaimedShort_eq_help_iff : unclaimedShort letter = .helpRequested ↔ letter = 'h' := by
  simp [unclaimedShort]

theorem help_of_planLong {explicit next : Option String}
    (h : (c.planLong dashes name explicit next).outcome = .error .helpRequested) :
    c.locateLong name = none ∧
      (Text.asciiLower name = "help" ∨ c.own.compat = true ∧ name = "h") := by
  obtain ⟨hid, hplan⟩ | ⟨id, raw, takesNext, -, -, hplan⟩ | hplan :=
    c.planLong_cases dashes name explicit next <;> rw [hplan] at h
  · exact ⟨hid, unclaimedLong_eq_help_iff.1 (Except.error.inj h)⟩
  · cases h
  · cases h

theorem help_of_planShort {next : Option String} {letters : List Char}
    (h : (c.planShort next letters).outcome = .error .helpRequested) :
    c.locateShort 'h' = none := by
  induction letters with
  | nil => cases h
  | cons letter letters ih =>
    obtain ⟨hid, hplan⟩ | ⟨id, -, hplan | ⟨raw, takesNext, -, hplan⟩⟩ | hplan :=
      c.planShort_cases next letter letters <;> rw [hplan] at h
    · obtain rfl := unclaimedShort_eq_help_iff.1 (Except.error.inj h)
      exact hid
    · exact ih h
    · cases h
    · cases h

/-! ## Chains with their own help -/

/-- Some flag of the chain has the short name `h`, and some flag has the long name `help`. -/
structure DefinesHelp (c : Chain) : Prop where
  short : ∃ id f, c.flagAt? id = some f ∧ f.names.short = some 'h'
  long : ∃ id f, c.flagAt? id = some f ∧ f.names.long = some "help"

/-- The only token that can ask for help is a long one that spells `help` in another way. -/
theorem help_of_planFlag (hc : c.DefinesHelp) {next : Option String} {token : FlagToken}
    (h : (c.planFlag next token).outcome = .error .helpRequested) :
    ∃ dashes name explicit, token = .long dashes name explicit ∧ c.locateLong name = none ∧
      Text.asciiLower name = "help" ∧ name ≠ "help" := by
  obtain ⟨⟨i, f, hf, hshort⟩, j, g, hg, hlong⟩ := hc
  cases token with
  | short letters => exact absurd hshort (locateShort_eq_none_iff.1 (help_of_planShort h) i f hf)
  | long dashes name explicit =>
    obtain ⟨hid, hname⟩ := help_of_planLong h
    have hno := locateLong_eq_none_iff.1 hid
    refine ⟨dashes, name, explicit, rfl, hid, hname.resolve_right ?_, ?_⟩
    · rintro ⟨hcompat, rfl⟩
      refine (hno i f hf).2 hcompat ?_
      rw [hshort]
      rfl
    · rintro rfl
      exact (hno j g hg).1 hlong

theorem help_of_runFlag {next : Option String} {token : FlagToken}
    (h : (c.runFlag next token).outcome = .error .helpRequested) :
    (c.planFlag next token).outcome = .error .helpRequested := by
  rw [runFlag_eq_carryOut] at h
  obtain hplan | ⟨flag, raw, problem, hrejected⟩ :=
    outcome_carryOut_cases (hasPlaces_planFlag c next token)
  · exact hplan.symm.trans h
  · cases hrejected.symm.trans h

theorem runFlag_of_help {explicit next : Option String} (hid : c.locateLong name = none)
    (hname : Text.asciiLower name = "help") :
    c.runFlag next (.long dashes name explicit) = ⟨c, .error .helpRequested⟩ := by
  simp only [runFlag, runLong, hid, unclaimedLong_eq_help_iff.2 (.inl hname)]

/-- A chain with its own flags `h` and `help` asks for help at one kind of argument only: in flag
position, a long name that spells `help` with capitals, where no flag has that name. -/
theorem helpRequested_iff (hc : c.DefinesHelp) (args : List String) :
    (c.readArgs args).outcome = .error .helpRequested ↔
      ∃ d arg rest dashes name explicit, c.Reads args d (arg :: rest) ∧
        ArgToken.ofArg c.own.compat arg = .flag (.long dashes name explicit) ∧
        Text.asciiLower name = "help" ∧ name ≠ "help" ∧
        ∀ id f, c.flagAt? id = some f → f.names.long ≠ some name := by
  constructor
  · intro h
    obtain ⟨d, tail, hreads, hhalts⟩ := exists_halts args c
    have hskeleton := skeleton_of_shape (shape_of_reads hreads)
    generalize c.readArgs args = r at h hhalts
    cases hhalts with
    | atEnd => cases h
    | atStop _ more => cases h
    | @failing arg rest token b e htoken hrun =>
      -- no assignment before the token changed what it means on the chain
      obtain rfl := Except.error.inj h
      have hplan := help_of_runFlag (congrArg ArgReading.outcome hrun)
      rw [planFlag_of_skeleton hskeleton] at hplan
      obtain ⟨dashes, name, explicit, rfl, hid, hname, hne⟩ := help_of_planFlag hc hplan
      rw [compat_of_skeleton hskeleton] at htoken
      exact ⟨d, arg, rest, dashes, name, explicit, hreads, htoken, hname, hne,
        (locateLong_eq_none_iff_of_help hname).1 hid⟩
  · rintro ⟨d, arg, rest, dashes, name, explicit, hreads, htoken, hname, -, hno⟩
    have hskeleton := skeleton_of_shape (shape_of_reads hreads)
    have hid : d.locateLong name = none := by
      rw [locateLong_of_skeleton hskeleton]
      exact (locateLong_eq_none_iff_of_help hname).2 hno
    rw [← compat_of_skeleton hskeleton] at htoken
    rw [readArgs_of_reads hreads, readArgs_of_failing htoken (runFlag_of_help hid hname)]

/-- A set with a switch for help of its own. -/
def helpChain : Chain where
  own :=
    { name := "t"
      flags :=
        [.ofDecl { names := { short := some 'h', long := some "help" }, value := .ofBool false }] }

theorem definesHelp_helpChain : helpChain.DefinesHelp :=
  ⟨⟨⟨0, 0⟩, _, rfl, rfl⟩, ⟨0, 0⟩, _, rfl, rfl⟩

theorem helpRequested_iff_sample :
    helpChain.DefinesHelp ∧
      (helpChain.readArgs ["-h", "--help", "--Help=x"]).outcome = .error .helpRequested ∧
      ∃ d arg rest dashes name explicit,
        helpChain.Reads ["-h", "--help", "--Help=x"] d (arg :: rest) ∧
        ArgToken.ofArg false arg = .flag (.long dashes name explicit) ∧
        Text.asciiLower name = "help" ∧ name ≠ "help" := by
  have h : (helpChain.readArgs ["-h", "--help", "--Help=x"]).outcome = .error .helpRequested := by
    decide +kernel
  obtain ⟨d, arg, rest, dashes, name, explicit, hreads, htoken, hname, hne, -⟩ :=
    (helpRequested_iff definesHelp_helpChain _).1 h
  exact ⟨definesHelp_helpChain, h, d, arg, rest, dashes, name, explicit, hreads, htoken, hname, hne⟩

/-- A switch for help does not keep capitals from asking for help. -/
theorem helpRequested_of_capitals :
    helpChain.DefinesHelp ∧ (helpChain.readArgs ["--HELP"]).outcome = .error .helpRequested :=
  ⟨definesHelp_helpChain, by decide +kernel⟩

end Chain

end LayeredFlags
