import LayeredFlags.Text.Quoted

/-!
# Undecodable configuration

Why a configuration source could not be decoded, and the wording of each reason.
-/

namespace LayeredFlags

/-- The formats whose document is a tree. -/
inductive DocumentFormat where
  | json
  | yaml
  | toml
  deriving DecidableEq, Repr

/-- The name of a document format in messages. -/
def DocumentFormat.label : DocumentFormat → String
  | .json => "JSON"
  | .yaml => "YAML"
  | .toml => "TOML"

/-- What is wrong with a line that should bind a key to a value. -/
inductive DotenvProblem where
  | notABinding (line : String)
  | emptyKey
  | openSingleQuote
  | openDoubleQuote
  deriving DecidableEq, Repr

/-- The wording of what is wrong with a binding. -/
def DotenvProblem.message : DotenvProblem → String
  | .notABinding line => "expected KEY=VALUE, got " ++ Text.quoted line
  | .emptyKey => "empty key"
  | .openSingleQuote => "unterminated single quote"
  | .openDoubleQuote => "unterminated double quote"

/-- Why a configuration source could not be decoded. -/
inductive DecodeError where
  /-- Reading broke off, for the reason given. -/
  | unreadable (reason : String)
  /-- Reading broke off, and the message says that it was the configuration's. -/
  | readFailed (reason : String)
  /-- The document breaks the rules of its format. -/
  | malformed (format : DocumentFormat)
  /-- The root of the document is a scalar or a list. -/
  | notAMap (format : DocumentFormat)
  /-- A line is no binding; lines count from one. -/
  | badBinding (line : Nat) (problem : DotenvProblem)
  deriving DecidableEq, Repr

/-- The wording of a decoding failure. -/
def DecodeError.message : DecodeError → String
  | .unreadable reason => reason
  | .readFailed reason => "failed to read config: " ++ reason
  | .malformed format => "invalid " ++ format.label
  | .notAMap format => format.label ++ " document must be a map at the top level"
  | .badBinding line problem =>
    "invalid dotenv line " ++ toString line ++ ": " ++ problem.message

end LayeredFlags
