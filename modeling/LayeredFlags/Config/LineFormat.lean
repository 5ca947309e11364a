import LayeredFlags.Config.Decoder

/-!
# Formats of lines

In a format of lines every line stands for itself: it holds a pair, or nothing, or is bad.  The
pairs of a source are those of its lines up to the first that is bad or cannot be read.  They may
be had all at once, or be offered to a receiver each before the next line is read.
-/

namespace LayeredFlags

/-- A format of which every line stands for itself. -/
structure LineFormat where
  /-- What a line holds, if it holds something. -/
  entry : String → Except DotenvProblem (Option (String × String))
  /-- The failure to decode where reading fails. -/
  broken : (reason : String) → DecodeError

namespace LineFormat

/-- What lines hold that count from `number`, up to the first bad one; `failure` is why the lines
end. -/
def decodeLines (F : LineFormat) (failure : Option String) (number : Nat) : List String → Decoded
  | [] => ⟨[], failure.map fun reason => .undecodable (F.broken reason)⟩
  | line :: rest =>
    match F.entry line with
    | .error problem => .failed (.badBinding number problem)
    | .ok entry =>
      let d := F.decodeLines failure (number + 1) rest
      { d with pairs := entry.toList ++ d.pairs }

/-- What the lines of a source hold. -/
def decode (F : LineFormat) (s : Source) : Decoded :=
  F.decodeLines s.lines.failure 1 s.lines.lines

/-- Offers what the lines of a source hold, which count from `number`, each before the next line is
read. -/
def stream {σ : Type} (F : LineFormat) (receive : String × String → σ → Attempt σ) (number : Nat)
    (s : Source) (t : σ) : Attempt σ :=
  match _h : s.readLine with
  | .ended => ⟨t, none⟩
  | .broken reason => ⟨t, some (.undecodable (F.broken reason))⟩
  | .line text rest =>
    match F.entry text with
    | .error problem => ⟨t, some (.undecodable (.badBinding number problem))⟩
    | .ok none => F.stream receive (number + 1) rest t
    | .ok (some pair) => (receive pair t).andThen (F.stream receive (number + 1) rest)
termination_by s.bytes.length
decreasing_by
  all_goals exact Source.length_lt_of_readLine _h

end LineFormat

end LayeredFlags
