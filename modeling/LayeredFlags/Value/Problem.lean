import LayeredFlags.Text.Quoted

/-!
# Rejected values

Why a value refuses a string, and the wording of each reason.
-/

namespace LayeredFlags

/-- Why a value refuses a string. -/
inductive ValueProblem where
  | emptyInteger
  | invalidDigit
  | tooLarge
  | tooSmall
  | emptyFloat
  | invalidFloat
  | notTrueOrFalse
  | emptyChar
  | tooManyChars
  /-- The string is none of the literals of a switch. -/
  | notBoolLiteral (raw : String)
  /-- The string is none of the choices. -/
  | notAChoice (choices : List String)
  /-- The variable with this key does not hold text. -/
  | notText (key : String)
  /-- A reason worded by a value of the user's own. -/
  | custom (reason : String)
  deriving DecidableEq, Repr

/-- The wording of a reason. -/
def ValueProblem.message : ValueProblem → String
  | .emptyInteger => "cannot parse integer from empty string"
  | .invalidDigit => "invalid digit found in string"
  | .tooLarge => "number too large to fit in target type"
  | .tooSmall => "number too small to fit in target type"
  | .emptyFloat => "cannot parse float from empty string"
  | .invalidFloat => "invalid float literal"
  | .notTrueOrFalse => "provided string was not \x60true\x60 or \x60false\x60"
  | .emptyChar => "cannot parse char from empty string"
  | .tooManyChars => "too many characters in string"
  | .notBoolLiteral raw => "invalid boolean literal " ++ Text.quoted raw
  | .notAChoice choices => "must be one of: " ++ ", ".intercalate choices
  | .notText key => key ++ " is not valid UTF-8"
  | .custom reason => reason

end LayeredFlags
