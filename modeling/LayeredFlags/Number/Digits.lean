/-!
# Digit strings

The value of a run of decimal digits, and the longest such run at the front of a text.
-/

namespace LayeredFlags.Number

/-- The number that one decimal digit stands for. -/
def digitValue (c : Char) : Nat :=
  c.toNat - '0'.toNat

/-- The number that a run of decimal digits stands for. -/
def digitsValue (s : List Char) : Nat :=
  s.foldl (fun n c => 10 * n + digitValue c) 0

/-- The longest run of decimal digits at the front of a text, and the rest. -/
def spanDigits (s : List Char) : List Char × List Char :=
  s.span Char.isDigit

/-- The value of a digit in a base up to sixteen. -/
def digitIn? (base : Nat) (c : Char) : Option Nat :=
  let n :=
    if c.isDigit then c.toNat - '0'.toNat
    else if 'a' ≤ c && c ≤ 'f' then c.toNat - 'a'.toNat + 10
    else if 'A' ≤ c && c ≤ 'F' then c.toNat - 'A'.toNat + 10
    else base
  if n < base then some n else none

/-- The number that a non-empty text of digits in a base stands for. -/
def natIn? (base : Nat) (s : List Char) : Option Nat :=
  if s.isEmpty then none
  else s.foldlM (fun n c => (digitIn? base c).map (base * n + ·)) 0

/-- The decimal digits of a number. -/
def natText (n : Nat) : List Char :=
  Nat.toDigits 10 n

/-- The decimal rendering of an integer. -/
def intText (i : Int) : List Char :=
  if i < 0 then '-' :: natText i.natAbs else natText i.natAbs

end LayeredFlags.Number
