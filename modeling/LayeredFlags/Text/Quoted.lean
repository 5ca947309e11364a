import LayeredFlags.Text.Printable

/-!
# Quoted texts

The quoting of texts and characters in messages.  A backslash, the surrounding quote and the
common control characters are written as escapes of two characters, every other character that is
not printable or attaches to its neighbour as its code point in hexadecimal, and all else as
itself.
-/

namespace LayeredFlags.Text

/-- The hexadecimal digits of a number, without leading zeros. -/
def hexDigits (n : Nat) : List Char :=
  Nat.toDigits 16 n

/-- One character between the quotes `mark`. -/
def quotedChar (mark c : Char) : List Char :=
  if c == '\x00' then ['\\', '0']
  else if c == '\t' then ['\\', 't']
  else if c == '\n' then ['\\', 'n']
  else if c == '\r' then ['\\', 'r']
  else if c == '\\' || c == mark then ['\\', c]
  else if isPrintable c && !isCombining c then [c]
  else ['\\', 'u', '\x7b'] ++ hexDigits c.toNat ++ ['\x7d']

/-- A text in double quotes. -/
def quoted (s : String) : String :=
  String.ofList ('"' :: s.toList.flatMap (quotedChar '"') ++ ['"'])

/-- A character in single quotes. -/
def quotedLetter (c : Char) : String :=
  String.ofList ('\'' :: quotedChar '\'' c ++ ['\''])

end LayeredFlags.Text
