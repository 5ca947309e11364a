import LayeredFlags.Config.Format
import LayeredFlags.Proofs.Config.Lines

/-!
# Where decoding breaks off

The formats that are read line by line deliver what the complete lines hold before the first
line that cannot be read, or before reading fails, and nothing of that line; a document delivers
all of its pairs or none.
-/

namespace LayeredFlags

/-! ## Lines of bytes -/

namespace Source

/-- Bytes as lines with a newline behind each, and what stands behind the last newline. -/
def joinLines (lines : List (List UInt8)) (rest : List UInt8) : List UInt8 :=
  lines.flatMap (· ++ [10]) ++ rest

theorem joinLines_append (xs ys : List (List UInt8)) (rest : List UInt8) :
    joinLines (xs ++ ys) rest = joinLines xs (joinLines ys rest) := by
  unfold joinLines
  rw [List.flatMap_append, List.append_assoc]

theorem joinLines_cons (line : List UInt8) (lines : List (List UInt8)) (rest : List UInt8) :
    joinLines (line :: lines) rest = line ++ 10 :: joinLines lines rest := by
  unfold joinLines
  rw [List.flatMap_cons, List.append_assoc, List.append_assoc, List.singleton_append]

/-- Splitting takes nothing away but the newlines, and leaves none. -/
theorem joinLines_splitLines (bytes : List UInt8) :
    joinLines (splitLines bytes).1 (splitLines bytes).2 = bytes ∧
      (∀ line ∈ (splitLines bytes).1, 10 ∉ line) ∧ 10 ∉ (splitLines bytes).2 := by
  induction bytes with
  | nil => exact ⟨rfl, nofun, List.not_mem_nil⟩
  | cons b bytes ih =>
    unfold splitLines
    generalize splitLines bytes = cut at ih ⊢
    obtain ⟨lines, last⟩ := cut
    obtain ⟨hjoin, hlines, hlast⟩ := ih
    dsimp only
    by_cases hb : b = 10
    · rw [if_pos hb]
      refine ⟨?_, ?_, hlast⟩
      · rw [joinLines_cons, hjoin, hb, List.nil_append]
      · exact List.forall_mem_cons.2 ⟨List.not_mem_nil, hlines⟩
    · rw [if_neg hb]
      cases lines with
      | nil =>
        refine ⟨congrArg (b :: ·) hjoin, hlines, ?_⟩
        rw [List.mem_cons, not_or]
        exact ⟨Ne.symm hb, hlast⟩
      | cons line lines =>
        obtain ⟨hline, hlines⟩ := List.forall_mem_cons.1 hlines
        refine ⟨?_, List.forall_mem_cons.2 ⟨?_, hlines⟩, hlast⟩
        · rw [← hjoin, joinLines_cons, joinLines_cons, List.cons_append]
        · rw [List.mem_cons, not_or]
          exact ⟨Ne.symm hb, hline⟩

theorem lines_cases (s : Source) :
    (s.lines = decodeLines s.failure ((splitLines s.bytes).1.map dropReturn)) ∨
      s.failure = none ∧ (splitLines s.bytes).2 ≠ [] ∧
        s.lines = decodeLines s.failure
          ((splitLines s.bytes).1.map dropReturn ++ [(splitLines s.bytes).2]) := by
  by_cases h : (s.failure.isSome || (splitLines s.bytes).2.isEmpty) = true
  · refine .inl ?_
    rw [lines_eq, if_pos h, List.append_nil]
  · refine .inr ⟨?_, ?_, ?_⟩
    · rw [Bool.or_eq_true, not_or] at h
      simpa using h.1
    · rw [Bool.or_eq_true, not_or] at h
      simpa using h.2
    · rw [lines_eq, if_neg h]

end Source

/-! ## Formats that are read line by line -/

namespace LineFormat

variable {F : LineFormat}

/-- The bytes of a line hold an entry, or can be read and hold none. -/
def Holds (F : LineFormat) (line : List UInt8) (entry : Option (String × String)) : Prop :=
  ∃ text, Text.Utf8.decode? line = some text ∧ F.entry text = .ok entry

/-- The bytes of a line are no text, or the text is no line of the format. -/
inductive Offends (F : LineFormat) (number : Nat) (line : List UInt8) : DecodeError → Prop
  | notText (h : Text.Utf8.decode? line = none) : Offends F number line (F.broken Source.notText)
  | malformed (text : String) (problem : DotenvProblem) (h : Text.Utf8.decode? line = some text)
      (hentry : F.entry text = .error problem) : Offends F number line (.badBinding number problem)

/-- What stands behind complete lines where decoding breaks off. -/
inductive Breaks (F : LineFormat) (s : Source) (number : Nat) (rest : List UInt8) :
    DecodeError → Prop
  /-- Reading fails, at the start of a line or in the middle. -/
  | reading (reason : String) (hs : s.failure = some reason) (hrest : 10 ∉ rest) :
      Breaks F s number rest (F.broken reason)
  /-- A line with a newline behind it cannot be read. -/
  | line (line more : List UInt8) (cause : DecodeError) (hrest : rest = line ++ 10 :: more)
      (hline : 10 ∉ line) (h : F.Offends number (Source.dropReturn line) cause) :
      Breaks F s number rest cause
  /-- The last line cannot be read. -/
  | last (cause : DecodeError) (hs : s.failure = none) (hrest : 10 ∉ rest) (hne : rest ≠ [])
      (h : F.Offends number rest cause) : Breaks F s number rest cause

/-- Decoding breaks off behind complete lines, and what they hold are the pairs. -/
def BreaksOff (F : LineFormat) (s : Source) (pairs : List (String × String))
    (cause : DecodeError) : Prop :=
  ∃ lines entries rest, s.bytes = Source.joinLines lines rest ∧ (∀ line ∈ lines, 10 ∉ line) ∧
    List.Forall₂ F.Holds (lines.map Source.dropReturn) entries ∧ pairs = entries.reduceOption ∧
      F.Breaks s (lines.length + 1) rest cause

theorem decodeLines_cases {failure : Option String} {number : Nat} {lines : List (List UInt8)}
    {cause : DecodeError} {d : Decoded}
    (hd : F.decodeLines (Source.decodeLines failure lines).failure number
      (Source.decodeLines failure lines).lines = d)
    (h : d.failure = some (.undecodable cause)) :
    (∃ entries reason, List.Forall₂ F.Holds lines entries ∧ d.pairs = entries.reduceOption ∧
        failure = some reason ∧ cause = F.broken reason) ∨
      ∃ good bad more entries, lines = good ++ bad :: more ∧ List.Forall₂ F.Holds good entries ∧
        d.pairs = entries.reduceOption ∧ F.Offends (number + good.length) bad cause := by
  induction lines generalizing number d with
  | nil =>
    subst hd
    obtain ⟨reason, hreason, hcause⟩ := Option.map_eq_some_iff.1 h
    cases hcause
    exact .inl ⟨[], reason, .nil, rfl, hreason, rfl⟩
  | cons line lines ih =>
    unfold Source.decodeLines at hd
    cases htext : Text.Utf8.decode? line with
    | none =>
      simp only [htext] at hd
      subst hd
      cases h
      exact .inr ⟨[], line, lines, [], rfl, .nil, rfl, .notText htext⟩
    | some text =>
      simp only [htext] at hd
      unfold decodeLines at hd
      cases hentry : F.entry text with
      | error problem =>
        simp only [hentry] at hd
        subst hd
        cases h
        exact .inr ⟨[], line, lines, [], rfl, .nil, rfl, .malformed text problem htext hentry⟩
      | ok entry =>
        simp only [hentry] at hd
        subst hd
        have hholds : F.Holds line entry := ⟨text, htext, hentry⟩
        have hpairs {entries : List (Option (String × String))}
            {pairs : List (String × String)} (e : pairs = entries.reduceOption) :
            entry.toList ++ pairs = (entry :: entries).reduceOption := by
          cases entry <;> simp [e]
        obtain ⟨entries, reason, hall, hp, hfailure, hcause⟩ |
          ⟨good, bad, more, entries, rfl, hall, hp, hbad⟩ := ih rfl h
        · exact .inl ⟨entry :: entries, reason, .cons hholds hall, hpairs hp, hfailure, hcause⟩
        · refine .inr ⟨line :: good, bad, more, entry :: entries, rfl, .cons hholds hall,
            hpairs hp, ?_⟩
          rwa [List.length_cons, Nat.add_comm good.length, ← Nat.add_assoc]

/-- Decoding breaks off at a line with a newline behind it, wherever the bytes end. -/
theorem breaksOff_of_complete {s : Source} {cause : DecodeError} {good more : List (List UInt8)}
    {bad : List UInt8} {entries : List (Option (String × String))}
    (hsplit : (Source.splitLines s.bytes).1.map Source.dropReturn = good ++ bad :: more)
    (hgood : List.Forall₂ F.Holds good entries) (hbad : F.Offends (1 + good.length) bad cause) :
    F.BreaksOff s entries.reduceOption cause := by
  obtain ⟨hjoin, hlines, -⟩ := Source.joinLines_splitLines s.bytes
  obtain ⟨lines, tail, hcut, rfl, htail⟩ := List.map_eq_append_iff.1 hsplit
  obtain ⟨line, after, rfl, rfl, -⟩ := List.map_eq_cons_iff.1 htail
  rw [hcut] at hjoin hlines
  refine ⟨lines, entries, _, ?_, ?_, hgood, rfl,
    .line line (Source.joinLines after (Source.splitLines s.bytes).2) cause rfl ?_ ?_⟩
  · rw [← Source.joinLines_cons, ← Source.joinLines_append]
    exact hjoin.symm
  · exact fun l hl => hlines l (List.mem_append_left _ hl)
  · exact hlines line (by simp)
  · rwa [List.length_map, Nat.add_comm] at hbad

/-- A source that a line format cannot decode breaks off behind complete lines, and what they hold
is what it delivers. -/
theorem breaksOff_of_undecodable {s : Source} {cause : DecodeError}
    (h : (F.decode s).failure = some (.undecodable cause)) :
    F.BreaksOff s (F.decode s).pairs cause := by
  obtain ⟨hjoin, hlines, hlast⟩ := Source.joinLines_splitLines s.bytes
  obtain hs | ⟨hnone, hne, hs⟩ := s.lines_cases
  · obtain ⟨entries, reason, hall, hpairs, hfailure, rfl⟩ |
      ⟨good, bad, more, entries, hsplit, hgood, hpairs, hbad⟩ :=
      decodeLines_cases (d := F.decode s) (by rw [decode, hs]) h
    · exact ⟨_, entries, _, hjoin.symm, hlines, hall, hpairs, .reading reason hfailure hlast⟩
    · exact hpairs ▸ breaksOff_of_complete hsplit hgood hbad
  · obtain ⟨entries, reason, -, -, hfailure, -⟩ |
      ⟨good, bad, more, entries, hsplit, hgood, hpairs, hbad⟩ :=
      decodeLines_cases (d := F.decode s) (by rw [decode, hs]) h
    · rw [hnone] at hfailure
      cases hfailure
    · -- the bad line is the last one, or stands before it
      rcases List.eq_nil_or_concat more with rfl | ⟨more, last, rfl⟩
      · obtain ⟨rfl, hbad'⟩ := List.append_inj' hsplit rfl
        cases hbad'
        refine ⟨_, entries, _, hjoin.symm, hlines, hgood, hpairs, .last cause hnone hlast hne ?_⟩
        rwa [List.length_map, Nat.add_comm] at hbad
      · rw [List.concat_eq_append, ← List.cons_append, ← List.append_assoc] at hsplit
        exact hpairs ▸ breaksOff_of_complete (List.append_inj' hsplit rfl).1 hgood hbad

end LineFormat

/-! ## The formats -/

theorem Format.decoder_of_lineFormat? {f : Format} {settings : DecoderSettings} {F : LineFormat}
    (h : f.lineFormat? settings = some F) (s : Source) : f.decoder settings s = F.decode s := by
  cases f <;> cases h <;> rfl

theorem Document.decodeWith_cases (read : String → Except DecodeError Document)
    (delimiter : String) (s : Source) :
    (∃ cause, decodeWith read delimiter s = .failed cause) ∨
      ∃ d : Document, decodeWith read delimiter s = ⟨d.pairs delimiter, none⟩ := by
  unfold decodeWith
  cases s.text with
  | error reason => exact .inl ⟨_, rfl⟩
  | ok text =>
    dsimp only
    cases read text with
    | error cause => exact .inl ⟨cause, rfl⟩
    | ok d => exact .inr ⟨d, rfl⟩

/-- A document that cannot be decoded delivers nothing. -/
theorem Format.eq_failed_of_document {f : Format} {settings : DecoderSettings} {s : Source}
    {e : FlagError} (hf : f.lineFormat? settings = none)
    (h : (f.decoder settings s).failure = some e) :
    ∃ cause, f.decoder settings s = .failed cause := by
  have key {read : String → Except DecodeError Document} {delimiter : String}
      (h : (Document.decodeWith read delimiter s).failure = some e) :
      ∃ cause, Document.decodeWith read delimiter s = .failed cause := by
    refine (Document.decodeWith_cases read delimiter s).resolve_right ?_
    rintro ⟨d, hd⟩
    rw [hd] at h
    cases h
  cases f with
  | plain => cases hf
  | dotenv => cases hf
  | json => exact key h
  | yaml => exact key h
  | toml => exact key h

end LayeredFlags
