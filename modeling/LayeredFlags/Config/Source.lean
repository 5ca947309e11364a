import LayeredFlags.Text.Utf8

/-!
# Sources

The bytes of a file as reading delivers them: all of them at once, or line by line.  Reading may
break off after the bytes that are there, and bytes that are no text break it off as well.  `lines`
has all lines of a source, and `readLine` takes one from its front.
-/

namespace LayeredFlags

/-- The bytes of a file, and why reading breaks off after them, if it does. -/
structure Source where
  bytes : List UInt8
  failure : Option String := none

/-- The lines of a source as far as they can be read. -/
structure SourceLines where
  lines : List String
  failure : Option String

namespace Source

/-- The source of a text. -/
def ofString (s : String) : Source :=
  { bytes := s.toUTF8.toList }

/-- Why bytes that are no text break off the reading. -/
def notText : String :=
  "stream did not contain valid UTF-8"

/-- The whole text of a source. -/
def text (s : Source) : Except String String :=
  match s.failure with
  | some reason => .error reason
  | none =>
    match Text.Utf8.decode? s.bytes with
    | some text => .ok text
    | none => .error notText

/-- The lines that a newline ends, without it, and the bytes behind the last newline. -/
def splitLines : List UInt8 → List (List UInt8) × List UInt8
  | [] => ([], [])
  | b :: rest =>
    let (lines, last) := splitLines rest
    if b = 10 then ([] :: lines, last)
    else match lines with
      | [] => ([], b :: last)
      | line :: lines => ((b :: line) :: lines, last)

/-- A line without the carriage return before its newline. -/
def dropReturn (line : List UInt8) : List UInt8 :=
  if line.getLast? = some 13 then line.dropLast else line

/-- The lines as texts, up to the first that is none. -/
def decodeLines (failure : Option String) : List (List UInt8) → SourceLines
  | [] => ⟨[], failure⟩
  | line :: rest =>
    match Text.Utf8.decode? line with
    | none => ⟨[], some notText⟩
    | some text =>
      { decodeLines failure rest with lines := text :: (decodeLines failure rest).lines }

/-- The lines of a source.  The last one needs no newline, unless reading breaks off in it. -/
def lines (s : Source) : SourceLines :=
  let (complete, last) := splitLines s.bytes
  let complete := complete.map dropReturn
  decodeLines s.failure
    (if s.failure.isSome || last.isEmpty then complete else complete ++ [last])

/-! ## One line after another -/

/-- What reading one more line gives. -/
inductive LineRead where
  /-- Nothing is left. -/
  | ended
  /-- Reading fails, or the line is no text. -/
  | broken (reason : String)
  | line (text : String) (rest : Source)

/-- The bytes before the first newline, and those behind it. -/
def cutLine? : List UInt8 → Option (List UInt8 × List UInt8)
  | [] => none
  | b :: bytes =>
    if b = 10 then some ([], bytes)
    else (cutLine? bytes).map fun (line, rest) => (b :: line, rest)

/-- Reads one line from the front of a source, and no byte behind its newline. -/
def readLine (s : Source) : LineRead :=
  match cutLine? s.bytes with
  | some (line, rest) =>
    match Text.Utf8.decode? (dropReturn line) with
    | some text => .line text { s with bytes := rest }
    | none => .broken notText
  | none =>
    match s.failure with
    | some reason => .broken reason
    | none =>
      if s.bytes.isEmpty then .ended
      else match Text.Utf8.decode? s.bytes with
        | some text => .line text { s with bytes := [] }
        | none => .broken notText

theorem of_cutLine? {bytes line rest : List UInt8} (h : cutLine? bytes = some (line, rest)) :
    bytes = line ++ 10 :: rest ∧ 10 ∉ line := by
  induction bytes generalizing line with
  | nil => cases h
  | cons b bytes ih =>
    unfold cutLine? at h
    by_cases hb : b = 10
    · rw [if_pos hb] at h
      cases h
      exact ⟨by rw [hb, List.nil_append], List.not_mem_nil⟩
    · rw [if_neg hb] at h
      obtain ⟨⟨front, back⟩, hcut, hline⟩ := Option.map_eq_some_iff.1 h
      cases hline
      obtain ⟨rfl, hfront⟩ := ih hcut
      exact ⟨rfl, by simp [Ne.symm hb, hfront]⟩

theorem length_lt_of_readLine {s rest : Source} {text : String}
    (h : s.readLine = .line text rest) : rest.bytes.length < s.bytes.length := by
  unfold readLine at h
  cases hcut : cutLine? s.bytes with
  | some cut =>
    obtain ⟨line, more⟩ := cut
    simp only [hcut] at h
    split at h
    next =>
      cases h
      show more.length < s.bytes.length
      rw [(of_cutLine? hcut).1, List.length_append, List.length_cons]
      omega
    next => cases h
  | none =>
    simp only [hcut] at h
    split at h
    next => cases h
    next =>
      split at h
      next => cases h
      next hempty =>
        split at h
        next =>
          cases h
          exact List.length_pos_iff.2 (by simpa using hempty)
        next => cases h

end Source

end LayeredFlags
