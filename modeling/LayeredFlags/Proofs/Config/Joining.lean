import LayeredFlags.Proofs.Config.Comments

/-!
# Joined sources

The formats that are read line by line carry nothing from one line to the next but the line number.
So a source that ends with a newline can be put in front of any other: the pairs are those of the
one and then those of the other.  A carriage return before a newline, and the newline behind the
last line, make no difference.
-/

namespace LayeredFlags

/-! ## Line endings -/

namespace Source

/-- The lines of a source as bytes: those with a newline, and the last one unless reading fails
in it. -/
def rawLines (s : Source) : List (List UInt8) :=
  (splitLines s.bytes).1.map dropReturn ++
    if s.failure.isSome || (splitLines s.bytes).2.isEmpty then [] else [(splitLines s.bytes).2]

/-- The source with a carriage return before every newline. -/
def withReturns (s : Source) : Source :=
  { s with bytes := s.bytes.flatMap fun b => if b = 10 then [13, 10] else [b] }

theorem dropReturn_append_return (line : List UInt8) : dropReturn (line ++ [13]) = line := by
  rw [dropReturn, List.getLast?_concat, if_pos rfl, List.dropLast_concat]

theorem splitLines_withReturns (s : Source) :
    splitLines s.withReturns.bytes =
      ((splitLines s.bytes).1.map (· ++ [13]), (splitLines s.bytes).2) := by
  obtain ⟨bytes, failure⟩ := s
  unfold withReturns
  dsimp only
  induction bytes with
  | nil => rfl
  | cons b bytes ih =>
    rw [List.flatMap_cons]
    by_cases hb : b = 10
    · simp [hb, splitLines, ih]
    · simp only [if_neg hb, List.singleton_append, splitLines, ih]
      cases (splitLines bytes).1 <;> simp

theorem length_splitLines (bytes : List UInt8) :
    (splitLines bytes).1.length = bytes.count 10 := by
  induction bytes with
  | nil => rfl
  | cons b bytes ih =>
    rw [List.count_cons, ← ih, splitLines]
    obtain ⟨lines, last⟩ := splitLines bytes
    by_cases hb : b = 10
    · simp [hb]
    · cases lines <;> simp [hb]

theorem splitLines_append {front : List UInt8} (h : front.getLast? = some 10)
    (rest : List UInt8) : (splitLines front).2 = [] ∧ splitLines (front ++ rest) =
      ((splitLines front).1 ++ (splitLines rest).1, (splitLines rest).2) := by
  obtain ⟨front, rfl⟩ := List.getLast?_eq_some_iff.1 h
  rw [List.append_assoc, List.singleton_append, splitLines_append_newline,
    splitLines_append_newline, splitLines]
  simp

/-- Behind a newline the lines are those of the rest. -/
theorem rawLines_append {front : List UInt8} (h : front.getLast? = some 10) (s : Source) :
    rawLines { s with bytes := front ++ s.bytes } = rawLines ⟨front, none⟩ ++ s.rawLines := by
  obtain ⟨hlast, hsplit⟩ := splitLines_append h s.bytes
  simp [rawLines, hsplit, hlast]

theorem length_rawLines {front : List UInt8} (h : front.getLast? = some 10) :
    (rawLines ⟨front, none⟩).length = front.count 10 := by
  obtain ⟨hlast, -⟩ := splitLines_append h []
  simp [rawLines, hlast, length_splitLines]

end Source

/-! ## Lines by themselves -/

/-- The failure of lines that stand `k` lines later: a bad binding tells its line. -/
def FlagError.later (k : Nat) : FlagError → FlagError
  | .undecodable (.badBinding number problem) => .undecodable (.badBinding (number + k) problem)
  | e => e

namespace LineFormat

variable {F : LineFormat} {failure : Option String} {number k : Nat}

/-- Blanks and empty lines mean nothing to the format, and only bad lines are numbered. -/
structure Lawful (F : LineFormat) : Prop where
  trims : F.Trims
  empty : F.entry "" = .ok none
  unnumbered : ∀ k reason,
    FlagError.later k (.undecodable (F.broken reason)) = .undecodable (F.broken reason)

theorem decode_eq_decodeBytes (s : Source) :
    F.decode s = F.decodeBytes s.failure 1 s.rawLines := by
  rw [decode, Source.lines_eq]
  exact decodeLines_eq_decodeBytes _ _ _

theorem Lawful.decodeBytes_add (hF : F.Lawful) (lines : List (List UInt8)) :
    F.decodeBytes failure (number + k) lines =
      ⟨(F.decodeBytes failure number lines).pairs,
        (F.decodeBytes failure number lines).failure.map (.later k)⟩ := by
  induction lines generalizing number with
  | nil => simp [decodeBytes, Function.comp_def, hF.unnumbered]
  | cons bytes lines ih =>
    simp only [decodeBytes]
    cases (Text.Utf8.decode? bytes).map F.entry with
    | none => simp [Decoded.failed, hF.unnumbered]
    | some entry =>
      cases entry with
      | error problem => rfl
      | ok entry =>
        rw [Nat.add_right_comm, ih]

/-- Lines behind others that can all be decoded are decoded as they are by themselves. -/
theorem decodeBytes_append {xs : List (List UInt8)}
    (h : (F.decodeBytes none number xs).failure = none) (ys : List (List UInt8)) :
    F.decodeBytes failure number (xs ++ ys) =
      ⟨(F.decodeBytes none number xs).pairs ++
          (F.decodeBytes failure (number + xs.length) ys).pairs,
        (F.decodeBytes failure (number + xs.length) ys).failure⟩ := by
  induction xs generalizing number with
  | nil => rfl
  | cons bytes xs ih =>
    simp only [decodeBytes, List.cons_append] at h ⊢
    cases hentry : (Text.Utf8.decode? bytes).map F.entry with
    | none =>
      rw [hentry] at h
      cases h
    | some entry =>
      rw [hentry] at h
      cases entry with
      | error problem => cases h
      | ok entry =>
        dsimp only at h ⊢
        rw [ih h, List.append_assoc, List.length_cons, Nat.add_right_comm, ← Nat.add_assoc]

/-! ### Line endings -/

theorem Lawful.alike_append_return (hF : F.Lawful) (line : List UInt8) :
    F.Alike (line ++ [13]) line := by
  have hreturn : ∀ c ∈ ['\r'], Text.isBlank c = true := List.forall_mem_singleton.2 (by decide)
  rw [Alike, Text.Utf8.decode?_append_singleton (by decide), Option.map_map]
  congr 1
  funext text
  have hentry := hF.trims (text.toList ++ ['\r']) text.toList (Text.trim_append_right hreturn)
  rwa [String.ofList_toList] at hentry

theorem Lawful.alike_dropReturn (hF : F.Lawful) (line : List UInt8) :
    F.Alike (Source.dropReturn line) line := by
  unfold Source.dropReturn
  split_ifs with h
  · obtain ⟨line, rfl⟩ := List.getLast?_eq_some_iff.1 h
    rw [List.dropLast_concat]
    exact (hF.alike_append_return line).symm
  · rfl

theorem Lawful.decode_withReturns (hF : F.Lawful) (s : Source) :
    F.decode s.withReturns = F.decode s := by
  have hcomplete : ((Source.splitLines s.bytes).1.map (· ++ [13])).map Source.dropReturn =
      (Source.splitLines s.bytes).1 := by
    simp [Function.comp_def, Source.dropReturn_append_return]
  have halike : List.Forall₂ F.Alike (Source.splitLines s.bytes).1
      ((Source.splitLines s.bytes).1.map Source.dropReturn) :=
    List.forall₂_map_right_iff.2 (List.forall₂_same.2 fun line _ => (hF.alike_dropReturn line).symm)
  rw [decode_eq_decodeBytes, decode_eq_decodeBytes, Source.rawLines, s.splitLines_withReturns,
    hcomplete]
  exact decodeBytes_congr (List.rel_append halike (List.forall₂_refl _)) _ _

theorem Lawful.decodeBytes_append_empty (hF : F.Lawful) (lines : List (List UInt8)) :
    F.decodeBytes failure number (lines ++ [[]]) = F.decodeBytes failure number lines := by
  have hempty : (Text.Utf8.decode? []).map F.entry = some (.ok none) := congrArg some hF.empty
  induction lines generalizing number with
  | nil => simp [decodeBytes, hempty]
  | cons bytes lines ih => simp only [List.cons_append, decodeBytes, ih]

theorem Lawful.decode_newline (hF : F.Lawful) (bytes : List UInt8) :
    F.decode ⟨bytes ++ [10], none⟩ = F.decode ⟨bytes, none⟩ := by
  have hsplit := Source.splitLines_append_newline bytes []
  generalize hcut : Source.splitLines bytes = cut at hsplit
  obtain ⟨lines, last⟩ := cut
  have hended : Source.rawLines ⟨bytes ++ [10], none⟩ =
      lines.map Source.dropReturn ++ [Source.dropReturn last] := by
    simp [Source.rawLines, hsplit, Source.splitLines]
  rw [decode_eq_decodeBytes, decode_eq_decodeBytes, hended]
  by_cases hlast : last = []
  · have hraw : Source.rawLines ⟨bytes, none⟩ = lines.map Source.dropReturn := by
      simp [Source.rawLines, hcut, hlast]
    rw [hraw, hlast]
    exact hF.decodeBytes_append_empty _
  · have hraw : Source.rawLines ⟨bytes, none⟩ = lines.map Source.dropReturn ++ [last] := by
      simp [Source.rawLines, hcut, hlast]
    rw [hraw]
    exact decodeBytes_congr
      (List.rel_append (List.forall₂_refl _) (.cons (hF.alike_dropReturn last) .nil)) _ _

end LineFormat

/-! ## The formats -/

/-- A decoder that reads every line by itself: `later k` is what becomes of a failure `k` lines
later. -/
structure ConfigDecoder.ReadsByLine (decode : ConfigDecoder)
    (later : Nat → FlagError → FlagError) : Prop where
  /-- Where the bytes in front can be decoded, what stands behind their last newline is decoded as
  it is by itself. -/
  joined : ∀ (front : List UInt8) (s : Source), front.getLast? = some 10 →
    (decode ⟨front, none⟩).failure = none →
      decode { s with bytes := front ++ s.bytes } =
        ⟨(decode ⟨front, none⟩).pairs ++ (decode s).pairs,
          (decode s).failure.map (later (front.count 10))⟩
  /-- Carriage returns before the newlines make no difference. -/
  returns : ∀ s : Source, decode s.withReturns = decode s
  /-- Neither does a newline behind the last line. -/
  newline : ∀ bytes, decode ⟨bytes ++ [10], none⟩ = decode ⟨bytes, none⟩

theorem LineFormat.Lawful.readsByLine {F : LineFormat} (hF : F.Lawful) :
    ConfigDecoder.ReadsByLine F.decode FlagError.later where
  joined front s hfront h := by
    rw [decode_eq_decodeBytes] at h
    simp only [decode_eq_decodeBytes, Source.rawLines_append hfront]
    rw [decodeBytes_append h, Source.length_rawLines hfront, hF.decodeBytes_add]
  returns := hF.decode_withReturns
  newline := hF.decode_newline

theorem Plain.lineFormat_lawful : lineFormat.Lawful where
  trims := lineFormat_trims
  empty := by decide
  unnumbered _ _ := rfl

theorem Dotenv.lineFormat_lawful (stem : Option String) : (lineFormat stem).Lawful where
  trims := lineFormat_trims stem
  empty := rfl
  unnumbered _ _ := rfl

theorem Plain.later_failure (k : Nat) (s : Source) :
    (decode s).failure.map (.later k) = (decode s).failure := by
  have hunnumbered : FlagError.later k ∘ (fun reason => .undecodable (.unreadable reason)) =
      fun reason => .undecodable (.unreadable reason) := rfl
  rw [decode_eq, Option.map_map, hunnumbered]

/-- The plain format and the dotenv format, with any stem, read every line by itself; only a failure
of the dotenv format tells where its line stands. -/
theorem decode_readsByLine :
    ConfigDecoder.ReadsByLine Plain.decode (fun _ e => e) ∧
      ∀ stem, ConfigDecoder.ReadsByLine (Dotenv.decode stem) FlagError.later := by
  refine ⟨?_, fun stem => (Dotenv.lineFormat_lawful stem).readsByLine⟩
  have hreads : ConfigDecoder.ReadsByLine Plain.decode FlagError.later :=
    Plain.lineFormat_lawful.readsByLine
  refine ⟨fun front s hfront h => ?_, hreads.returns, hreads.newline⟩
  rw [hreads.joined front s hfront h, Plain.later_failure, Option.map_id']

theorem decode_readsByLine_sample :
    let front := (Source.ofString "A=1\r\n\n").bytes
    let s := { Source.ofString "APP_B='2'\nno binding\nC=3" with failure := some "lost" }
    let decode := Dotenv.decode (some "APP")
    front.getLast? = some 10 ∧ (decode ⟨front, none⟩).failure = none ∧
      decode { s with bytes := front ++ s.bytes } =
        ⟨[("A", "1"), ("B", "2")],
          some (.undecodable (.badBinding 4 (.notABinding "no binding")))⟩ := by
  intro front s decode
  have hfront : front.getLast? = some 10 := by decide +kernel
  have hread : (decode ⟨front, none⟩).failure = none := by decide +kernel
  have hpairs : (decode ⟨front, none⟩).pairs ++ (decode s).pairs = [("A", "1"), ("B", "2")] := by
    decide +kernel
  have hfailure : (decode s).failure.map (FlagError.later (front.count 10)) =
      some (.undecodable (.badBinding 4 (.notABinding "no binding"))) := by decide +kernel
  have hjoined : decode { s with bytes := front ++ s.bytes } = _ :=
    (decode_readsByLine.2 (some "APP")).joined front s hfront hread
  refine ⟨hfront, hread, ?_⟩
  rw [hjoined, hpairs, hfailure]

end LayeredFlags
