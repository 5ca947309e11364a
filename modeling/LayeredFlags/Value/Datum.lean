import LayeredFlags.Number.Layout
import LayeredFlags.Text.Upper
import LayeredFlags.Value.Problem

/-!
# Typed data

The element types of scalar and list values: reading a datum of a type from a string, its
rendering, and the equality by which a list drops repeated elements.
-/

namespace LayeredFlags

/-- A fixed-width integer type. -/
structure IntType where
  signed : Bool
  bits : Nat
  deriving DecidableEq, Repr

/-- The greatest number of the type. -/
def IntType.greatest (t : IntType) : Nat :=
  if t.signed then Number.twoTo (t.bits - 1) - 1 else Number.twoTo t.bits - 1

/-- The magnitude of the least number of the type. -/
def IntType.lowest (t : IntType) : Nat :=
  if t.signed then Number.twoTo (t.bits - 1) else 0

/-- The type of an element. -/
inductive ScalarType where
  | string
  | int (type : IntType)
  | float
  | bool
  | char
  deriving DecidableEq, Repr

namespace ScalarType

/-- The signed 64-bit integers. -/
abbrev int64 : ScalarType := .int ⟨true, 64⟩

/-- The unsigned 64-bit integers. -/
abbrev uint64 : ScalarType := .int ⟨false, 64⟩

end ScalarType

/-- An element: a text, a number, a truth value or a character. -/
inductive Datum where
  | string (s : String)
  | int (i : Int)
  | float (x : Number.Binary64)
  | bool (b : Bool)
  | char (c : Char)
  deriving DecidableEq, Repr

open Number in
/-- Digits read from left to right up to a limit.  The first digit that is none, or that takes
the number past the limit, is the problem; of both at one place it is the former. -/
def readDigits (limit : Nat) (overflow : ValueProblem) (n : Nat) :
    List Char → Except ValueProblem Nat
  | [] => .ok n
  | c :: s =>
    if c.isDigit then
      let m := 10 * n + digitValue c
      if m ≤ limit then readDigits limit overflow m s else .error overflow
    else .error .invalidDigit

/-- Reads an integer of a type: an optional sign (a minus for signed types only), then digits. -/
def IntType.read (t : IntType) : List Char → Except ValueProblem Int
  | [] => .error .emptyInteger
  | ['+'] => .error .invalidDigit
  | ['-'] => .error .invalidDigit
  | '+' :: s => (readDigits t.greatest .tooLarge 0 s).map Int.ofNat
  | '-' :: s =>
    if t.signed then (readDigits t.lowest .tooSmall 0 s).map fun n => -(n : Int)
    else .error .invalidDigit
  | s => (readDigits t.greatest .tooLarge 0 s).map Int.ofNat

/-- Reads a floating-point number: the names of infinity and nan in any letter case, or decimal
notation, after an optional sign. -/
def readFloat (s : List Char) : Except ValueProblem Number.Binary64 :=
  let (negative, word) := Number.takeSign s
  let word := String.ofList (word.map Text.asciiLowerChar)
  if s.isEmpty then .error .emptyFloat
  else if word == "inf" || word == "infinity" then .ok (.infinite negative)
  else if word == "nan" then .ok .nan
  else match Number.Decimal.read? s with
    | some d => .ok (.ofDecimal d)
    | none => .error .invalidFloat

/-- Reads an element of a type. -/
def ScalarType.read (t : ScalarType) (raw : String) : Except ValueProblem Datum :=
  match t with
  | .string => .ok (.string raw)
  | .int type => (type.read raw.toList).map .int
  | .float => (readFloat raw.toList).map .float
  | .bool =>
    if raw = "true" then .ok (.bool true)
    else if raw = "false" then .ok (.bool false)
    else .error .notTrueOrFalse
  | .char =>
    match raw.toList with
    | [] => .error .emptyChar
    | [c] => .ok (.char c)
    | _ => .error .tooManyChars

/-- The element that a type starts from. -/
def ScalarType.zero : ScalarType → Datum
  | .string => .string ""
  | .int _ => .int 0
  | .float => .float (.zero false)
  | .bool => .bool false
  | .char => .char '\x00'

namespace Datum

/-- The rendering of an element. -/
def text : Datum → String
  | .string s => s
  | .int i => String.ofList (Number.intText i)
  | .float x => x.text .plain
  | .bool b => if b then "true" else "false"
  | .char c => String.singleton c

/-- Equality of elements; for floating-point numbers it is numeric. -/
def same : Datum → Datum → Bool
  | .float x, .float y => x.same y
  | a, b => a == b

end Datum

end LayeredFlags
