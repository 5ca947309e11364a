/-!
# UTF-8

Reading characters from bytes, and writing them as bytes.  `scan` takes one byte at a time: it emits
every character as it ends, and an empty place for every longest beginning of a character that the
next byte (or the end) breaks off.  A text is well-formed when no place is empty; the lenient
reading puts the replacement character there.
-/

namespace LayeredFlags.Text.Utf8

/-- A character whose first bytes have been read: how many bytes are still owed, the range of the
next one, and the bits collected so far. -/
structure Begun where
  owed : Nat
  low : Nat
  high : Nat
  bits : Nat

/-- What one byte can do between two characters. -/
inductive First where
  /-- The byte is a character. -/
  | whole (c : Char)
  /-- The byte begins a longer character. -/
  | begins (b : Begun)
  /-- No character begins with the byte. -/
  | broken

/-- The part of a byte between two characters. -/
def first (n : Nat) : First :=
  if n ≤ 0x7F then .whole (Char.ofNat n)
  else if 0xC2 ≤ n && n ≤ 0xDF then .begins ⟨1, 0x80, 0xBF, n - 0xC0⟩
  else if n = 0xE0 then .begins ⟨2, 0xA0, 0xBF, 0⟩
  else if n = 0xED then .begins ⟨2, 0x80, 0x9F, 0xD⟩
  else if 0xE1 ≤ n && n ≤ 0xEF then .begins ⟨2, 0x80, 0xBF, n - 0xE0⟩
  else if n = 0xF0 then .begins ⟨3, 0x90, 0xBF, 0⟩
  else if n = 0xF4 then .begins ⟨3, 0x80, 0x8F, 4⟩
  else if 0xF1 ≤ n && n ≤ 0xF3 then .begins ⟨3, 0x80, 0xBF, n - 0xF0⟩
  else .broken

/-- The characters of a byte string, with an empty place where a character is broken off. -/
def scan : Option Begun → List UInt8 → List (Option Char)
  | none, [] => []
  | some _, [] => [none]
  | none, b :: rest =>
    match first b.toNat with
    | .whole c => some c :: scan none rest
    | .begins q => scan (some q) rest
    | .broken => none :: scan none rest
  | some q, b :: rest =>
    if q.low ≤ b.toNat && b.toNat ≤ q.high then
      let bits := q.bits * 64 + (b.toNat - 0x80)
      if q.owed ≤ 1 then some (Char.ofNat bits) :: scan none rest
      else scan (some ⟨q.owed - 1, 0x80, 0xBF, bits⟩) rest
    else
      match first b.toNat with
      | .whole c => none :: some c :: scan none rest
      | .begins q => none :: scan (some q) rest
      | .broken => none :: none :: scan none rest

/-- The text of a well-formed byte string. -/
def decode? (bytes : List UInt8) : Option String :=
  ((scan none bytes).mapM id).map String.ofList

/-- The text of a byte string, with U+FFFD for each broken character. -/
def decodeLossy (bytes : List UInt8) : String :=
  String.ofList ((scan none bytes).map (·.getD '\uFFFD'))

/-- The bytes that write a text. -/
def encode (s : List Char) : List UInt8 :=
  s.flatMap String.utf8EncodeChar

/-- The number of bytes that write a text. -/
def byteLength : List Char → Nat
  | [] => 0
  | c :: rest => c.utf8Size + byteLength rest

end LayeredFlags.Text.Utf8
