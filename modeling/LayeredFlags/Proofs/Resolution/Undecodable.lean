import LayeredFlags.Proofs.Config.Breaking
import LayeredFlags.Proofs.Resolution.Failures

/-!
# Parses that end at an undecodable configuration

Where the configuration cannot be decoded, a document leaves the chain as the environment made it;
a file that is read line by line has given everything before the place where its decoding breaks
off, and nothing from there on.
-/

namespace LayeredFlags

/-- The pairs that a receiver is offered, up to the first that it refuses. -/
def Decoded.offered {σ : Type} (d : Decoded) (receive : String × String → σ → Attempt σ) (s : σ) :
    List (String × String) :=
  offeredFrom d.pairs s
where
  /-- The pairs of a list that a receiver is offered. -/
  offeredFrom : List (String × String) → σ → List (String × String)
    | [], _ => []
    | pair :: rest, s =>
      pair :: match (receive pair s).failure with
        | none => offeredFrom rest (receive pair s).state
        | some _ => []

theorem Decoded.offered_of_none {σ : Type} {d : Decoded}
    {receive : String × String → σ → Attempt σ} {s : σ}
    (h : (Attempt.each receive d.pairs s).failure = none) : d.offered receive s = d.pairs := by
  have key (pairs : List (String × String)) (s : σ)
      (h : (Attempt.each receive pairs s).failure = none) :
      offered.offeredFrom receive pairs s = pairs := by
    induction pairs generalizing s with
    | nil => rfl
    | cons pair rest ih =>
      rw [Attempt.each_cons, Attempt.failure_andThen_eq_none_iff] at h
      unfold offered.offeredFrom
      rw [h.1]
      exact congrArg (pair :: ·) (ih _ h.2)
  exact key d.pairs s h

namespace Chain

variable {c : Chain} {o : ParseOptions} {args : List String}

/-- Where a parse stands when it begins to read a source: the command line and the environment are
done, and the configuration file is open. -/
structure Opens (o : ParseOptions) (args : List String) (c : Chain) (path : String)
    (source : Source) : Prop extends c.PassesEnv o args where
  configured : (c.afterEnv o args).configPath o = .ok (some path)
  opened : o.openFile path = .opened source

/-- What takes the pairs of the configuration file in a parse. -/
def receiver (o : ParseOptions) (args : List String) (c : Chain) (path : String) :
    String × String → Chain → Attempt Chain :=
  receive o (KeyIndex.ofChain o.rules c) path (c.afterEnv o args).provided

/-- The pairs of the configuration file that a parse offers to the flags. -/
def offered (o : ParseOptions) (args : List String) (c : Chain) (path : String) (source : Source) :
    List (String × String) :=
  (o.decoder source).offered (c.receiver o args path) (c.afterEnv o args)

/-- A parse that fails to decode its configuration offers none of a document and leaves the chain as
it was behind the environment; of a file that is read line by line it offers the entries of the
complete lines up to the place where decoding breaks off, and leaves the chain as these make it. -/
theorem state_of_undecodable {f : Format} {settings : DecoderSettings} {cause : DecodeError}
    (hf : o.decoder = f.decoder settings)
    (h : (c.parse o args).failure = some (.undecodable cause)) :
    ∃ path source, c.Opens o args path source ∧
      match f.lineFormat? settings with
      | none => c.offered o args path source = [] ∧ (c.parse o args).state = c.afterEnv o args
      | some F =>
        F.BreaksOff source (c.offered o args path source) cause ∧
          Attempt.each (c.receiver o args path) (c.offered o args path source) (c.afterEnv o args) =
            ⟨(c.parse o args).state, none⟩ := by
  cases failsIn_of_parse h with
  | args _ hargs => cases argsFailure_of_readArgs hargs with | plan hplan => cases hplan
  | env _ _ henv => cases envFailure_of_fillFromEnv henv
  | config _ hpass hconfig hstate =>
    obtain hown | ⟨path, source, hpath, hopen, hfail, heach⟩ := fillFromConfig_failure hconfig
    · cases hown
    rw [← hstate] at heach
    have hoffered : c.offered o args path source = (o.decoder source).pairs :=
      Decoded.offered_of_none (congrArg Attempt.failure heach)
    refine ⟨path, source, ⟨hpass, hpath, hopen⟩, ?_⟩
    rw [hoffered]
    rw [hf] at hfail heach ⊢
    cases hF : f.lineFormat? settings with
    | none =>
      obtain ⟨cause', hfailed⟩ := f.eq_failed_of_document hF hfail
      rw [hfailed] at heach ⊢
      exact ⟨rfl, (congrArg Attempt.state heach).symm⟩
    | some F =>
      rw [f.decoder_of_lineFormat? hF] at hfail heach ⊢
      exact ⟨F.breaksOff_of_undecodable hfail, heach⟩

/-- A set with two texts. -/
def textPair : Chain where
  own :=
    let text (name : String) : Flag :=
      .ofDecl { names := { long := some name }, value := .ofDefault .string (.string "") }
    { name := "app", flags := [text "near", text "far"] }

/-- Options with a configuration file that holds some bytes, and perhaps breaks off behind them. -/
def sourceOptions (f : Format) (source : Source) : ParseOptions where
  configFile := some (.path "app.conf")
  decoder := f.decoder
  openFile _ := .opened source

theorem state_of_undecodable_sample :
    let lines := Source.ofString "near=1\r\n\nfar=2\nnear\nfar=3\n"
    let broken := { Source.ofString "near: 1\nfar: 2" with failure := some "lost" }
    let dotenv := sourceOptions .dotenv lines
    let yaml := sourceOptions .yaml broken
    let cause := DecodeError.badBinding 4 (.notABinding "near")
    (textPair.parse dotenv []).failure = some (.undecodable cause) ∧
      textPair.offered dotenv [] "app.conf" lines = [("near", "1"), ("far", "2")] ∧
      (∃ path source, textPair.Opens dotenv [] path source ∧
        (Dotenv.lineFormat none).BreaksOff source (textPair.offered dotenv [] path source) cause ∧
        Attempt.each (textPair.receiver dotenv [] path) (textPair.offered dotenv [] path source)
          (textPair.afterEnv dotenv []) = ⟨(textPair.parse dotenv []).state, none⟩) ∧
      (textPair.parse yaml []).failure = some (.undecodable (.readFailed "lost")) ∧
      ∃ path source, textPair.Opens yaml [] path source ∧
        textPair.offered yaml [] path source = [] ∧
        (textPair.parse yaml []).state = textPair.afterEnv yaml [] := by
  intro lines broken dotenv yaml cause
  have hdotenv : (textPair.parse dotenv []).failure = some (.undecodable cause) := by decide +kernel
  have hyaml : (textPair.parse yaml []).failure = some (.undecodable (.readFailed "lost")) := by
    decide +kernel
  refine ⟨hdotenv, by decide +kernel, ?_, hyaml, ?_⟩
  · have hdecoder : dotenv.decoder = Format.decoder .dotenv {} := rfl
    exact state_of_undecodable hdecoder hdotenv
  · have hdecoder : yaml.decoder = Format.decoder .yaml {} := rfl
    exact state_of_undecodable hdecoder hyaml

end Chain

end LayeredFlags
