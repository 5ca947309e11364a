import LayeredFlags.Proofs.Config.Breaking

/-!
# A line at its place

A source holds a line at a place: behind other lines or at the beginning, before other bytes or at
the end, whether these can be read or not.  A format that does not see the blanks around a line
decodes two sources alike that differ in one line only, if it finds the same in the two lines.
-/

namespace LayeredFlags

/-! ## Places in a source -/

/-- A place for a line in a source: what stands before the line and behind it, with a newline in
between, and why reading fails at the end, if it does. -/
structure LinePlace where
  before : Option (List UInt8) := none
  behind : Option (List UInt8) := none
  failure : Option String := none

namespace LinePlace

/-- The source with a line at the place. -/
def put (p : LinePlace) (line : OneLine) : Source where
  bytes := p.before.elim [] (· ++ [10]) ++ (Text.Utf8.encode line.1 ++ p.behind.elim [] (10 :: ·))
  failure := p.failure

/-- A line by itself. -/
theorem put_alone (line : OneLine) :
    ({} : LinePlace).put line = Source.ofString (String.ofList line.1) := by
  have hbytes : (Source.ofString (String.ofList line.1)).bytes = Text.Utf8.encode line.1 := by
    rw [Source.bytes_ofString, String.toList_ofList]
  have hput : ({} : LinePlace).put line = ⟨Text.Utf8.encode line.1, none⟩ := by simp [put]
  rw [hput, ← hbytes]
  rfl

/-- The line is not read at all, where reading fails in it; or it is one of the lines of the source,
perhaps without the carriage return at its end. -/
theorem lines_put (p : LinePlace) :
    (∃ s : SourceLines, ∀ line : OneLine, line.1 ≠ [] → (p.put line).lines = s) ∨
      ∃ (front back : List (List UInt8)) (ending : List Char → List Char),
        (∀ s, Text.trim (ending s) = Text.trim s) ∧
          ∀ line : OneLine, line.1 ≠ [] → (p.put line).lines =
            Source.decodeLines p.failure (front ++ Text.Utf8.encode (ending line.1) :: back) := by
  obtain ⟨before, behind, failure⟩ := p
  -- the complete lines before the place
  obtain ⟨front, hfront⟩ : ∃ front : List (List UInt8), ∀ rest : List UInt8,
      Source.splitLines (before.elim [] (· ++ [10]) ++ rest) =
        (front ++ (Source.splitLines rest).1, (Source.splitLines rest).2) := by
    cases before with
    | none => exact ⟨[], fun rest => rfl⟩
    | some bytes =>
      refine ⟨(Source.splitLines bytes).1 ++ [(Source.splitLines bytes).2], fun rest => ?_⟩
      have hsplit := Source.splitLines_append_newline bytes rest
      simpa using hsplit
  cases behind with
  | none =>
    cases failure with
    | none =>
      refine .inr ⟨front.map Source.dropReturn, [], id, fun _ => rfl, fun line hne => ?_⟩
      have hlast : Text.Utf8.encode line.1 ≠ [] := mt Source.encode_eq_nil_iff.1 hne
      have hline := Source.splitLines_of_not_mem (Source.newline_not_mem_encode line)
      simp [Source.lines_eq, put, hfront, hline, hlast]
    | some reason =>
      refine .inl ⟨Source.decodeLines (some reason) (front.map Source.dropReturn), fun line _ => ?_⟩
      have hline := Source.splitLines_of_not_mem (Source.newline_not_mem_encode line)
      simp [Source.lines_eq, put, hfront, hline]
  | some bytes =>
    refine .inr ⟨front.map Source.dropReturn, (Source.splitLines bytes).1.map Source.dropReturn ++
      if failure.isSome || (Source.splitLines bytes).2.isEmpty then []
        else [(Source.splitLines bytes).2],
      Source.withoutReturn, Source.trim_withoutReturn, fun line _ => ?_⟩
    have hline := Source.splitLines_newline (Source.newline_not_mem_encode line) bytes
    simp [Source.lines_eq, put, hfront, hline, Source.dropReturn_encode]

end LinePlace

/-! ## Reading a line at its place -/

namespace LineFormat

variable {F : LineFormat} {line : OneLine}

/-- What lines of bytes hold that count from `number`, up to the first that is bad or no text. -/
def decodeBytes (F : LineFormat) (failure : Option String) (number : Nat) :
    List (List UInt8) → Decoded
  | [] => ⟨[], failure.map fun reason => .undecodable (F.broken reason)⟩
  | bytes :: rest =>
    match (Text.Utf8.decode? bytes).map F.entry with
    | none => .failed (F.broken Source.notText)
    | some (.error problem) => .failed (.badBinding number problem)
    | some (.ok entry) =>
      { F.decodeBytes failure (number + 1) rest with
        pairs := entry.toList ++ (F.decodeBytes failure (number + 1) rest).pairs }

/-- The format finds the same in two lines of bytes. -/
def Alike (F : LineFormat) (a b : List UInt8) : Prop :=
  (Text.Utf8.decode? a).map F.entry = (Text.Utf8.decode? b).map F.entry

instance : Std.Refl F.Alike :=
  ⟨fun _ => rfl⟩

theorem decodeLines_eq_decodeBytes (failure : Option String) (number : Nat)
    (lines : List (List UInt8)) :
    F.decodeLines (Source.decodeLines failure lines).failure number
        (Source.decodeLines failure lines).lines = F.decodeBytes failure number lines := by
  induction lines generalizing number with
  | nil => rfl
  | cons bytes lines ih =>
    unfold Source.decodeLines decodeBytes
    cases Text.Utf8.decode? bytes with
    | none => rfl
    | some text =>
      simp only [decodeLines, ih, Option.map_some]
      cases F.entry text <;> rfl

/-- Lines that hold the same can be exchanged. -/
theorem decodeBytes_congr {xs ys : List (List UInt8)} (h : List.Forall₂ F.Alike xs ys)
    (failure : Option String) (number : Nat) :
    F.decodeBytes failure number xs = F.decodeBytes failure number ys := by
  induction h generalizing number with
  | nil => rfl
  | cons hline _ ih =>
    unfold Alike at hline
    simp only [decodeBytes, hline, ih]

theorem decode_put_congr (hF : F.Trims) {a b : OneLine} (ha : a.1 ≠ []) (hb : b.1 ≠ [])
    (h : F.entry (String.ofList a.1) = F.entry (String.ofList b.1)) (p : LinePlace) :
    F.decode (p.put a) = F.decode (p.put b) := by
  obtain ⟨s, hs⟩ | ⟨front, back, ending, hending, hs⟩ := p.lines_put
  · rw [decode, decode, hs a ha, hs b hb]
  · have hread (line : OneLine) : Text.Utf8.decode? (Text.Utf8.encode (ending line.1)) =
        some (String.ofList (ending line.1)) := by
      rw [← Text.Utf8.decode?_encode (String.ofList _), String.toList_ofList]
    have hentry : F.entry (String.ofList (ending a.1)) = F.entry (String.ofList (ending b.1)) :=
      (hF _ _ (hending a.1)).trans (h.trans (hF _ _ (hending b.1)).symm)
    have halike : F.Alike (Text.Utf8.encode (ending a.1)) (Text.Utf8.encode (ending b.1)) := by
      rw [Alike, hread, hread, Option.map_some, Option.map_some, hentry]
    rw [decode, decode, hs a ha, hs b hb, decodeLines_eq_decodeBytes, decodeLines_eq_decodeBytes]
    exact decodeBytes_congr (List.rel_append (List.forall₂_refl front)
      (.cons halike (List.forall₂_refl back))) _ _

theorem decode_alone (hne : line.1 ≠ []) :
    F.decode (Source.ofString (String.ofList line.1)) =
      match F.entry (String.ofList line.1) with
      | .error problem => .failed (.badBinding 1 problem)
      | .ok entry => ⟨entry.toList, none⟩ := by
  have hlines : (Source.ofString (String.ofList line.1)).lines =
      ⟨[String.ofList line.1], none⟩ := by
    have hwritten := Source.lines_written [] line
    rw [if_neg hne] at hwritten
    exact hwritten
  rw [decode, hlines]
  cases hentry : F.entry (String.ofList line.1) <;> simp [decodeLines, hentry]

theorem entry_of_decode_alone {pair : String × String} (hne : line.1 ≠ [])
    (h : F.decode (Source.ofString (String.ofList line.1)) = ⟨[pair], none⟩) :
    F.entry (String.ofList line.1) = .ok (some pair) := by
  rw [decode_alone hne] at h
  cases hentry : F.entry (String.ofList line.1) with
  | error problem =>
    rw [hentry] at h
    cases h
  | ok entry =>
    rw [hentry] at h
    cases entry with
    | none => cases h
    | some found =>
      cases h
      rfl

end LineFormat

end LayeredFlags
