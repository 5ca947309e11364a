import LayeredFlags.Number.Shortest

/-!
# Layouts of floating-point numbers

How the shortest digits of a number are set out: with the point among them, or with one digit
before the point and an exponent.  A `Layout` holds the choices of one text format.
-/

namespace LayeredFlags.Number

/-- The choices of a text format for floating-point numbers. -/
structure Layout where
  /-- Numbers `0.d₁d₂… * 10 ^ point` are written without an exponent for points from the first
  to the second bound; without bounds, all are. -/
  positional : Option (Int × Int)
  /-- A whole number keeps `.0`. -/
  keepsPoint : Bool
  /-- A positive exponent has a plus sign. -/
  plusSign : Bool
  tie : TieRule
  nan : String
  infinite : String
  deriving Repr

/-- Positional, `.0` dropped. -/
def Layout.plain : Layout :=
  { positional := none, keepsPoint := false, plusSign := false, tie := .away,
    nan := "NaN", infinite := "inf" }

/-- Positional from `1e-5` to below `1e16`, then with a signed exponent. -/
def Layout.json : Layout :=
  { positional := some (-4, 16), keepsPoint := true, plusSign := true, tie := .even,
    nan := "null", infinite := "null" }

/-- Positional from `1e-5` to below `1e16`, then with an exponent. -/
def Layout.yaml : Layout :=
  { positional := some (-4, 16), keepsPoint := true, plusSign := false, tie := .even,
    nan := ".nan", infinite := ".inf" }

/-- Digits with the point among them, filled up with zeros on either side. -/
def Digits.positionalText (keepsPoint : Bool) (d : Digits) : List Char :=
  let tail := if keepsPoint then ['.', '0'] else []
  if d.point ≤ 0 then
    '0' :: '.' :: (List.replicate (-d.point).toNat '0' ++ d.digits)
  else if (d.digits.length : Int) ≤ d.point then
    d.digits ++ List.replicate (d.point.toNat - d.digits.length) '0' ++ tail
  else d.digits.take d.point.toNat ++ '.' :: d.digits.drop d.point.toNat

/-- Digits with one of them before the point, and an exponent. -/
def Digits.scientificText (plusSign : Bool) (d : Digits) : List Char :=
  let e := d.point - 1
  let mantissa := match d.digits with
    | [] => []
    | [c] => [c]
    | c :: rest => c :: '.' :: rest
  let sign := if plusSign && 0 ≤ e then ['+'] else []
  mantissa ++ 'e' :: (sign ++ intText e)

/-- A magnitude in a layout. -/
def Layout.magnitudeText (l : Layout) (m : Nat) (e : Int) : List Char :=
  if m = 0 then if l.keepsPoint then ['0', '.', '0'] else ['0']
  else
    let d := shortestDigits l.tie m e
    match l.positional with
    | none => d.positionalText l.keepsPoint
    | some (low, high) =>
      if low ≤ d.point && d.point ≤ high then d.positionalText l.keepsPoint
      else d.scientificText l.plusSign

/-- The text of a floating-point number in a layout. -/
def Binary64.text (l : Layout) : Binary64 → String
  | .nan => l.nan
  | .infinite negative => if negative then "-" ++ l.infinite else l.infinite
  | .finite negative m e =>
    String.ofList (if negative then '-' :: l.magnitudeText m e else l.magnitudeText m e)

end LayeredFlags.Number
