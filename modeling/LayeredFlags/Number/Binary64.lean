import LayeredFlags.Number.Decimal
import LayeredFlags.Number.Power

/-!
# Binary floating-point numbers of 64 bits

The numbers are held exactly: a finite one is `± significand * 2 ^ exponent` with a significand
below `2 ^ 53` and an exponent from -1074 to 971, and the significand is at least `2 ^ 52` unless
the exponent is the least.  `ofRatio` rounds a positive quotient to the nearest of them, a tie to
the even significand; reading a decimal, products and quotients all go through it.
-/

namespace LayeredFlags.Number

/-- A floating-point number of 64 bits. -/
inductive Binary64 where
  | nan
  | infinite (negative : Bool)
  | finite (negative : Bool) (significand : Nat) (exponent : Int)
  deriving DecidableEq, Repr

namespace Binary64

/-- The least exponent of a finite number. -/
def leastExponent : Int := -1074

/-- The greatest exponent of a finite number. -/
def greatestExponent : Int := 971

/-- Zero with a sign. -/
def zero (negative : Bool) : Binary64 :=
  .finite negative 0 leastExponent

/-- The quotient `a / b` rounded to the nearest natural number, a tie to the even one. -/
def divNearestEven (a b : Nat) : Nat :=
  let q := a / b
  let r := a % b
  if 2 * r < b then q
  else if b < 2 * r then q + 1
  else q + q % 2

/-- The quotient `a / b * 2 ^ (-e)` rounded to the nearest natural number. -/
def scaledNearest (a b : Nat) (e : Int) : Nat :=
  if e < 0 then divNearestEven (a * twoTo (-e).toNat) b else divNearestEven a (b * twoTo e.toNat)

/-- The quotient `a / b * 2 ^ (-e)` without its fraction. -/
def scaledFloor (a b : Nat) (e : Int) : Nat :=
  if e < 0 then a * twoTo (-e).toNat / b else a / (b * twoTo e.toNat)

/-- The number nearest to `± a / b`, for a divisor that is not zero. -/
def ofRatio (negative : Bool) (a b : Nat) : Binary64 :=
  if a = 0 then zero negative
  else
    let guess := max leastExponent ((a.log2 : Int) - b.log2 - 53)
    let e := if twoTo 53 ≤ scaledFloor a b guess then guess + 1 else guess
    let m := scaledNearest a b e
    let (m, e) := if m = twoTo 53 then (twoTo 52, e + 1) else (m, e)
    if greatestExponent < e then .infinite negative else .finite negative m e

/-- The number nearest to a natural number. -/
def ofNat (n : Nat) : Binary64 :=
  ofRatio false n 1

/-- The number nearest to a decimal.  A decimal whose magnitude is past every finite number, or
below half of the least, is not computed. -/
def ofDecimal (d : Decimal) : Binary64 :=
  if d.coefficient = 0 then zero d.negative
  else if 400 < d.exponent then .infinite d.negative
  else if d.exponent < -400 - (d.coefficient.log2 : Int) then zero d.negative
  else if d.exponent < 0 then ofRatio d.negative d.coefficient (tenTo (-d.exponent).toNat)
  else ofRatio d.negative (d.coefficient * tenTo d.exponent.toNat) 1

/-- The number with the other sign. -/
def neg : Binary64 → Binary64
  | .nan => .nan
  | .infinite s => .infinite !s
  | .finite s m e => .finite (!s) m e

/-- The number is infinite. -/
def isInfinite : Binary64 → Bool
  | .infinite _ => true
  | _ => false

/-- The number is finite. -/
def isFinite : Binary64 → Bool
  | .finite .. => true
  | _ => false

/-- The number is zero, of either sign. -/
def isZero : Binary64 → Bool
  | .finite _ 0 _ => true
  | _ => false

/-- The product of two numbers, rounded. -/
def mul : Binary64 → Binary64 → Binary64
  | .finite s m e, .finite t n f =>
    let g := e + f
    if g < 0 then ofRatio (s != t) (m * n) (twoTo (-g).toNat)
    else ofRatio (s != t) (m * n * twoTo g.toNat) 1
  | .nan, _ => .nan
  | _, .nan => .nan
  | .infinite s, .finite t n _ => if n = 0 then .nan else .infinite (s != t)
  | .finite s m _, .infinite t => if m = 0 then .nan else .infinite (s != t)
  | .infinite s, .infinite t => .infinite (s != t)

/-- The quotient of two numbers, rounded. -/
def div : Binary64 → Binary64 → Binary64
  | .finite s m e, .finite t n f =>
    if n = 0 then if m = 0 then .nan else .infinite (s != t)
    else
      let g := e - f
      if g < 0 then ofRatio (s != t) m (n * twoTo (-g).toNat)
      else ofRatio (s != t) (m * twoTo g.toNat) n
  | .nan, _ => .nan
  | _, .nan => .nan
  | .infinite s, .finite t _ _ => .infinite (s != t)
  | .finite s _ _, .infinite t => zero (s != t)
  | .infinite _, .infinite _ => .nan

/-- Numeric equality: the zeros are equal, and nan is equal to nothing. -/
def same : Binary64 → Binary64 → Bool
  | .nan, _ => false
  | _, .nan => false
  | x, y => (x.isZero && y.isZero) || x == y

end Binary64

end LayeredFlags.Number
