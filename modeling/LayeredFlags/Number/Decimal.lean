import LayeredFlags.Number.Digits

/-!
# Decimal notation

A number written in decimal: an optional sign, digits with an optional point (on at least one
side of it), and an optional exponent.
-/

namespace LayeredFlags.Number

/-- The number `± coefficient * 10 ^ exponent`. -/
structure Decimal where
  negative : Bool
  coefficient : Nat
  exponent : Int
  deriving DecidableEq, Repr

/-- A sign at the front of a text (`true` for minus), and the rest. -/
def takeSign : List Char → Bool × List Char
  | '-' :: s => (true, s)
  | '+' :: s => (false, s)
  | s => (false, s)

/-- The exponent part that must make up a whole text: nothing, or `e`, a sign and digits. -/
def exponent? : List Char → Option Int
  | [] => some 0
  | c :: s =>
    if c == 'e' || c == 'E' then
      let (negative, digits) := takeSign s
      if digits.isEmpty || !digits.all Char.isDigit then none
      else some (if negative then -(digitsValue digits : Int) else digitsValue digits)
    else none

/-- The number that a whole text writes. -/
def Decimal.read? (s : List Char) : Option Decimal :=
  let (negative, s) := takeSign s
  let (whole, s) := spanDigits s
  let (fraction, s) := match s with
    | '.' :: t => spanDigits t
    | t => ([], t)
  if whole.isEmpty && fraction.isEmpty then none
  else (exponent? s).map fun e =>
    ⟨negative, digitsValue (whole ++ fraction), e - fraction.length⟩

end LayeredFlags.Number
