import LayeredFlags.Number.Layout

/-!
# JSON syntax trees

What a JSON text says before it is given a meaning: numbers as their digits, and strings as
characters and escaped code units.  The meaning of a number or a string may be missing: a
magnitude past the floating-point numbers, a surrogate without its partner.
-/

namespace LayeredFlags.Json

/-- One character of a string, or a code unit given by its four hexadecimal digits. -/
inductive StringPiece where
  | char (c : Char)
  | unit (n : Nat)
  deriving DecidableEq, Repr

/-- The digits of a number. -/
structure NumberLiteral where
  negative : Bool
  whole : List Char
  fraction : Option (List Char)
  /-- The sign of the exponent and its digits. -/
  exponent : Option (Bool × List Char)
  deriving DecidableEq, Repr

/-- A JSON text. -/
inductive Tree where
  | null
  | bool (b : Bool)
  | number (n : NumberLiteral)
  | string (s : List StringPiece)
  | array (items : List Tree)
  | object (members : List (List StringPiece × Tree))
  deriving Repr

/-! ## Strings -/

/-- The first half of a surrogate pair. -/
def isHighSurrogate (n : Nat) : Bool :=
  0xD800 ≤ n && n ≤ 0xDBFF

/-- The second half of a surrogate pair. -/
def isLowSurrogate (n : Nat) : Bool :=
  0xDC00 ≤ n && n ≤ 0xDFFF

/-- The text of a string, if every surrogate in it is part of a pair. -/
def stringText? : List StringPiece → Option (List Char)
  | [] => some []
  | .char c :: rest => (stringText? rest).map (c :: ·)
  | [.unit n] =>
    if isHighSurrogate n || isLowSurrogate n then none else some [Char.ofNat n]
  | .unit n :: next :: rest =>
    if isHighSurrogate n then
      match next with
      | .unit m =>
        if isLowSurrogate m then
          (stringText? rest).map
            (Char.ofNat (0x10000 + (n - 0xD800) * 0x400 + (m - 0xDC00)) :: ·)
        else none
      | .char _ => none
    else if isLowSurrogate n then none
    else (stringText? (next :: rest)).map (Char.ofNat n :: ·)

/-! ## Numbers -/

/-- The meaning of a number. -/
inductive Number where
  | int (i : Int)
  | float (x : LayeredFlags.Number.Binary64)
  deriving DecidableEq, Repr

/-- The text of a number. -/
def Number.text : Number → String
  | .int i => String.ofList (LayeredFlags.Number.intText i)
  | .float x => x.text .json

open LayeredFlags.Number

/-- Appends digits to a significand of 64 bits while it can hold them; how many it holds, and how
many are left. -/
def absorb (significand : Nat) : List Char → Nat × Nat × Nat
  | [] => (significand, 0, 0)
  | c :: rest =>
    let next := 10 * significand + digitValue c
    if next < twoTo 64 then
      let (s, taken, left) := absorb next rest
      (s, taken + 1, left)
    else (significand, 0, rest.length + 1)

/-- The significand times a power of ten, by one rounded product or by rounded quotients.  A
magnitude past the finite numbers has no value. -/
def scaleUp? (x : Binary64) (e : Nat) : Option Binary64 :=
  if 308 < e then if x.isZero then some x else none
  else
    let y := x.mul (.ofDecimal ⟨false, 1, e⟩)
    if y.isInfinite then none else some y

/-- The significand divided by a power of ten, in steps that a power of ten can make. -/
def scaleDown (x : Binary64) (e : Nat) : Binary64 :=
  if e ≤ 308 then x.div (.ofDecimal ⟨false, 1, e⟩)
  else if x.isZero then x
  else scaleDown (x.div (.ofDecimal ⟨false, 1, 308⟩)) (e - 308)
termination_by e

/-- The floating-point number `± significand * 10 ^ e`. -/
def floatOf? (negative : Bool) (significand : Nat) (e : Int) : Option Number :=
  let x := Binary64.ofNat significand
  let y := if e < 0 then some (scaleDown x e.natAbs) else scaleUp? x e.toNat
  y.map fun y => .float (if negative then y.neg else y)

/-- The greatest exponent that is computed with. -/
def exponentLimit : Nat := twoTo 31 - 1

/-- An exponent that stays within the limit. -/
def clampExponent (e : Int) : Int :=
  max (-exponentLimit - 1) (min e exponentLimit)

/-- The meaning of a number.  Without a fraction or an exponent it is an integer where 64 bits hold
it; `-0` and all else are floating-point numbers. -/
def NumberLiteral.value? (n : NumberLiteral) : Option Number :=
  let (significand, _, left) := absorb 0 n.whole
  if left = 0 && n.fraction.isNone && n.exponent.isNone then
    if !n.negative then some (.int significand)
    else if significand = 0 || twoTo 63 < significand then floatOf? true significand 0
    else some (.int (-(significand : Int)))
  else
    let (significand, taken, _) := absorb significand (n.fraction.getD [])
    let start : Int := left - taken
    match n.exponent with
    | none => floatOf? n.negative significand start
    | some (down, digits) =>
      let e := digitsValue digits
      if exponentLimit < e then
        if significand ≠ 0 && !down then none
        else some (.float (.zero n.negative))
      else floatOf? n.negative significand (clampExponent (if down then start - e else start + e))

end LayeredFlags.Json
