import LayeredFlags.Config.Plain
import LayeredFlags.Keys.Derived

/-!
# Parse options

What a parse consults besides the command line: the environment and its key rules, and a
configuration file with its decoder.
-/

namespace LayeredFlags

/-- What opening a file gives. -/
inductive FileAccess where
  | missing
  | refused (reason : String)
  | opened (source : Source)

/-- Where the path of the configuration file comes from. -/
inductive ConfigFile where
  | path (path : String)
  /-- The value of a flag, once the command line and the environment are read. -/
  | flag (name : String)
  deriving DecidableEq, Repr

/-- What a parse consults, and what it tolerates. -/
structure ParseOptions where
  envEnabled : Bool := false
  rules : KeyRules := {}
  /-- The separator of environment values that hold several. -/
  envSplit : Option String := none
  configFile : Option ConfigFile := none
  decoder : ConfigDecoder := Plain.decode
  /-- A missing configuration file counts as empty. -/
  allowMissing : Bool := false
  /-- Configuration names without a flag are passed over. -/
  ignoreUndefined : Bool := false
  /-- The bytes of environment variables. -/
  env : String → Option (List UInt8) := fun _ => none
  /-- The files that can be opened. -/
  openFile : String → FileAccess := fun _ => .missing

namespace ParseOptions

/-- Consults the environment under keys with a stem. -/
def withEnvStem (stem : String) (o : ParseOptions) : ParseOptions :=
  { o with envEnabled := true, rules := { o.rules with stem := some stem } }

/-- Derives keys from short names too. -/
def withShortNames (o : ParseOptions) : ParseOptions :=
  { o with rules := { o.rules with shortNames := true } }

/-- Keeps the case of keys. -/
def withCaseSensitive (o : ParseOptions) : ParseOptions :=
  { o with rules := { o.rules with caseSensitive := true } }

end ParseOptions

end LayeredFlags
