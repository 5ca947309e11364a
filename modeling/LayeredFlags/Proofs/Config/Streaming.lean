import LayeredFlags.Proofs.Config.Breaking

/-!
# Decoding while reading

A decoder offers each pair as soon as it has it: the formats that are read line by line before they
read the next line, a document in the middle of the walk over its tree.  This comes to the same as
decoding everything and offering the pairs then, whatever the receiver does.  So a receiver that
refuses a pair is offered this pair last, and its failure is the outcome, whatever stands behind the
pair in the source.
-/

namespace LayeredFlags

variable {σ : Type}

theorem Decoded.feed_cons (pair : String × String) (d : Decoded)
    (receive : String × String → σ → Attempt σ) (t : σ) :
    Decoded.feed { d with pairs := pair :: d.pairs } receive t =
      (receive pair t).andThen (d.feed receive) :=
  Attempt.andThen_assoc _ _ _

/-! ## Reading one line -/

namespace Source

theorem not_mem_of_cutLine? {bytes : List UInt8} (h : cutLine? bytes = none) : 10 ∉ bytes := by
  induction bytes with
  | nil => exact List.not_mem_nil
  | cons b bytes ih =>
    unfold cutLine? at h
    split_ifs at h with hb
    rw [List.mem_cons, not_or]
    exact ⟨Ne.symm hb, ih (Option.map_eq_none_iff.1 h)⟩

/-- The lines of a source are the one that is read next, and the lines of what is left. -/
theorem lines_eq_readLine (s : Source) :
    s.lines = match s.readLine with
      | .ended => ⟨[], none⟩
      | .broken reason => ⟨[], some reason⟩
      | .line text rest => ⟨text :: rest.lines.lines, rest.lines.failure⟩ := by
  rw [lines_eq]
  unfold readLine
  cases hcut : cutLine? s.bytes with
  | some cut =>
    obtain ⟨line, more⟩ := cut
    obtain ⟨hbytes, hline⟩ := of_cutLine? hcut
    rw [hbytes, splitLines_newline hline, List.map_cons, List.cons_append, decodeLines]
    dsimp only
    cases Text.Utf8.decode? (dropReturn line) with
    | none => rfl
    | some text =>
      dsimp only
      rw [lines_eq]
  | none =>
    rw [splitLines_of_not_mem (not_mem_of_cutLine? hcut)]
    dsimp only
    cases s.failure with
    | some reason => rfl
    | none =>
      by_cases hempty : s.bytes.isEmpty = true
      · simp only [hempty]
        rfl
      · simp only [hempty]
        cases htext : Text.Utf8.decode? s.bytes with
        | none => simp [decodeLines, htext]
        | some text => simp [decodeLines, htext, lines_eq, splitLines]

end Source

/-! ## Line by line -/

namespace LineFormat

variable {F : LineFormat}

theorem stream_eq_feed_decodeLines (receive : String × String → σ → Attempt σ) (number : Nat)
    (s : Source) (t : σ) : F.stream receive number s t =
      (F.decodeLines s.lines.failure number s.lines.lines).feed receive t := by
  fun_induction stream F receive number s t with
  | case1 number s t h =>
    rw [Source.lines_eq_readLine, h]
    rfl
  | case2 number s t reason h =>
    rw [Source.lines_eq_readLine, h]
    rfl
  | case3 number s t text rest h problem hentry =>
    rw [Source.lines_eq_readLine, h]
    simp only [decodeLines, hentry]
    rfl
  | case4 number s t text rest h hentry ih =>
    rw [Source.lines_eq_readLine, h, ih]
    simp only [decodeLines, hentry]
    rfl
  | case5 number s t text rest h pair hentry ih =>
    rw [Source.lines_eq_readLine, h]
    simp only [decodeLines, hentry]
    exact (congrArg _ (funext ih)).trans (Decoded.feed_cons ..).symm

end LineFormat

/-! ## Walking a document -/

namespace Document

theorem emit_eq_each (delimiter : String) (receive : String × String → σ → Attempt σ)
    (work : List (String × Document)) (t : σ) :
    emit delimiter receive work t = Attempt.each receive (pairsOf delimiter work) t := by
  fun_induction emit delimiter receive work t with
  | case1 t => rw [pairsOf, Attempt.each]
  | case2 name rest t ih => rw [pairsOf, ih]
  | case3 name text rest t ih =>
    rw [pairsOf, Attempt.each_cons]
    exact congrArg _ (funext ih)
  | case4 name items rest t ih => rw [pairsOf, ih]
  | case5 name entries rest t ih => rw [pairsOf, ih]

theorem offer_eq_each (delimiter : String) (receive : String × String → σ → Attempt σ)
    (d : Document) (t : σ) :
    d.offer delimiter receive t = Attempt.each receive (d.pairs delimiter) t := by
  cases d with
  | map entries => exact emit_eq_each delimiter receive entries t
  | _ => rfl

theorem stream_eq_feed (read : String → Except DecodeError Document) (delimiter : String)
    (receive : String × String → σ → Attempt σ) (s : Source) (t : σ) :
    stream read delimiter receive s t = (decodeWith read delimiter s).feed receive t := by
  unfold stream decodeWith
  cases s.text with
  | error reason => rfl
  | ok text =>
    dsimp only
    cases read text with
    | error cause => rfl
    | ok d => exact (offer_eq_each delimiter receive d t).trans (Attempt.andThen_mk _).symm

end Document

/-! ## The formats -/

/-- It makes no difference to the receiver whether everything is decoded before it is offered. -/
theorem Format.stream_eq_feed (f : Format) (settings : DecoderSettings)
    (receive : String × String → σ → Attempt σ) (s : Source) (t : σ) :
    f.stream settings receive s t = (f.decoder settings s).feed receive t := by
  cases f with
  | plain => exact LineFormat.stream_eq_feed_decodeLines receive 1 s t
  | dotenv => exact LineFormat.stream_eq_feed_decodeLines receive 1 s t
  | json => exact Document.stream_eq_feed ..
  | toml => exact Document.stream_eq_feed ..
  | yaml => exact Document.stream_eq_feed ..

/-! ## Refusing receivers -/

/-- A receiver that keeps what it is offered, and answers in view of what it has been offered. -/
def recording (answer : List (String × String) → String × String → Option FlagError)
    (pair : String × String) (offered : List (String × String)) :
    Attempt (List (String × String)) :=
  ⟨offered ++ [pair], answer offered pair⟩

/-- The first `n` calls are accepted, and the next one is refused. -/
structure RefusesBehind (n : Nat)
    (answer : List (String × String) → String × String → Option FlagError) : Prop where
  accepts : ∀ offered pair, offered.length < n → answer offered pair = none
  refuses : ∀ offered pair, offered.length = n → (answer offered pair).isSome

/-- How decoding a source goes with a receiver that refuses the call behind `n` others. -/
structure Format.StopsBehind (f : Format) (settings : DecoderSettings) (s : Source) (n : Nat)
    (answer : List (String × String) → String × String → Option FlagError) : Prop where
  /-- Any receiver may be offered the pairs when all is decoded. -/
  fed : ∀ {σ : Type} (receive : String × String → σ → Attempt σ) (t : σ),
    f.stream settings receive s t = (f.decoder settings s).feed receive t
  /-- A receiver that accepts every call is offered all pairs, and fails no decoding. -/
  accepted : f.stream settings (recording fun _ _ => none) s [] =
    ⟨(f.decoder settings s).pairs, (f.decoder settings s).failure⟩
  /-- The pair that is refused is the last one that is offered, and the outcome is the refusal. -/
  refused : ∀ pair, (f.decoder settings s).pairs[n]? = some pair →
    ∃ e, answer ((f.decoder settings s).pairs.take n) pair = some e ∧
      f.stream settings (recording answer) s [] =
        ⟨(f.decoder settings s).pairs.take (n + 1), some e⟩
  /-- Where no pair is left for that call, the receiver accepts all of them. -/
  spared : (f.decoder settings s).pairs.length ≤ n →
    f.stream settings (recording answer) s [] = f.stream settings (recording fun _ _ => none) s []

variable {answer : List (String × String) → String × String → Option FlagError} {n : Nat}

theorem each_recording_of_le (h : ∀ offered pair, offered.length < n → answer offered pair = none)
    {pairs offered : List (String × String)} (hn : offered.length + pairs.length ≤ n) :
    Attempt.each (recording answer) pairs offered = ⟨offered ++ pairs, none⟩ := by
  induction pairs generalizing offered with
  | nil => rw [List.append_nil, Attempt.each]
  | cons pair rest ih =>
    rw [List.length_cons] at hn
    rw [Attempt.each_cons, recording, h offered pair (by omega), Attempt.andThen_mk_none,
      ih (by rw [List.length_append, List.length_singleton]; omega), List.append_assoc,
      List.singleton_append]

theorem feed_recording_of_le (h : ∀ offered pair, offered.length < n → answer offered pair = none)
    {d : Decoded} (hn : d.pairs.length ≤ n) :
    d.feed (recording answer) [] = ⟨d.pairs, d.failure⟩ := by
  rw [Decoded.feed, each_recording_of_le h (by simpa using hn), Attempt.andThen_mk_none,
    List.nil_append]

theorem feed_recording_of_getElem? (h : RefusesBehind n answer) {d : Decoded}
    {pair : String × String} (hpair : d.pairs[n]? = some pair) :
    ∃ e, answer (d.pairs.take n) pair = some e ∧
      d.feed (recording answer) [] = ⟨d.pairs.take (n + 1), some e⟩ := by
  obtain ⟨hn, rfl⟩ := List.getElem?_eq_some_iff.1 hpair
  have hlength : (d.pairs.take n).length = n := by
    rw [List.length_take]
    omega
  obtain ⟨e, he⟩ := Option.isSome_iff_exists.1 (h.refuses (d.pairs.take n) d.pairs[n] hlength)
  refine ⟨e, he, ?_⟩
  have hsplit : d.pairs = d.pairs.take n ++ d.pairs[n] :: d.pairs.drop (n + 1) := by
    rw [← List.drop_eq_getElem_cons hn, List.take_append_drop]
  have hfirst : Attempt.each (recording answer) (d.pairs.take n) [] = ⟨d.pairs.take n, none⟩ :=
    each_recording_of_le h.accepts (by simp [hlength])
  have hrefused : Attempt.each (recording answer) d.pairs [] = ⟨d.pairs.take (n + 1), some e⟩ := by
    conv_lhs => rw [hsplit, Attempt.each_append, hfirst, Attempt.andThen_mk_none, Attempt.each_cons]
    rw [recording, he, List.take_succ_eq_append_getElem hn]
    rfl
  rw [Decoded.feed, hrefused]
  rfl

/-- A decoder stops at the first pair that its receiver refuses: it has offered a beginning of what
it offers a receiver that accepts everything, and fails as the receiver does. -/
theorem Format.stopsBehind (f : Format) (settings : DecoderSettings) (s : Source)
    (h : RefusesBehind n answer) : f.StopsBehind settings s n answer := by
  have haccepted : f.stream settings (recording fun _ _ => none) s [] =
      ⟨(f.decoder settings s).pairs, (f.decoder settings s).failure⟩ := by
    rw [f.stream_eq_feed]
    exact feed_recording_of_le (fun _ _ _ => rfl) le_rfl
  refine ⟨fun receive t => f.stream_eq_feed settings receive s t, haccepted, fun pair hpair => ?_,
    fun hn => ?_⟩
  · rw [f.stream_eq_feed]
    exact feed_recording_of_getElem? h hpair
  · rw [haccepted, f.stream_eq_feed, feed_recording_of_le h.accepts hn]

theorem Format.stopsBehind_sample :
    let s := { Source.ofString "A=1\nexport B='2'\nnot a pair\n" with failure := some "lost" }
    let answer : List (String × String) → String × String → Option FlagError :=
      fun offered pair => if offered.length = 1 then some (.unknownFlag pair.1) else none
    RefusesBehind 1 answer ∧ Format.dotenv.StopsBehind {} s 1 answer ∧
      (Format.dotenv.decoder {} s).failure =
        some (.undecodable (.badBinding 3 (.notABinding "not a pair"))) ∧
      Format.dotenv.stream {} (recording answer) s [] =
        ⟨[("A", "1"), ("B", "2")], some (.unknownFlag "B")⟩ := by
  intro s answer
  have hanswer : RefusesBehind 1 answer :=
    ⟨fun offered pair h => if_neg h.ne, fun offered pair h => by simp [answer, h]⟩
  have hstops := Format.stopsBehind .dotenv {} s hanswer
  have hpairs : (Format.dotenv.decoder {} s).pairs = [("A", "1"), ("B", "2")] := by decide +kernel
  obtain ⟨e, he, hstream⟩ := hstops.refused ("B", "2") (by rw [hpairs]; rfl)
  rw [hpairs] at he hstream
  cases he
  exact ⟨hanswer, hstops, by decide +kernel, hstream⟩

end LayeredFlags
