import LayeredFlags.Config.Problem
import LayeredFlags.Flag.Names
import LayeredFlags.Value.Problem

/-!
# Errors

What can go wrong while flags are registered or their values are resolved: the causes, their
broad kinds and their wording.
-/

namespace LayeredFlags

/-- A failure to register a flag or to resolve its value. -/
inductive FlagError where
  /-- The names of a flag are malformed. -/
  | invalidName (problem : NameProblem)
  /-- A name, as written on a command line, is taken in the same set. -/
  | duplicateFlag (name : String)
  /-- Two distinct flags derive the same environment key. -/
  | duplicateKey (key first second : String)
  /-- A configuration key belongs to several flags. -/
  | ambiguousKey (key : String) (candidates : List String)
  /-- No flag of the chain has the name. -/
  | unknownFlag (name : String)
  /-- Help was asked for on the command line, and no flag claims the name. -/
  | helpRequested
  /-- A flag that needs a value was last on the command line. -/
  | missingValue (flag : String)
  /-- The value of a flag refused the string it was given. -/
  | valueRejected (flag value : String) (problem : ValueProblem)
  /-- The set was parsed and not reset since. -/
  | alreadyParsed (set : String)
  /-- The configuration file does not exist. -/
  | fileNotFound (path : String)
  /-- The configuration file could not be opened. -/
  | unopenable (path reason : String)
  /-- The configuration could not be decoded. -/
  | undecodable (cause : DecodeError)
  deriving DecidableEq, Repr

/-- The broad kind of a failure. -/
inductive ErrorKind where
  | invalidName
  | duplicateFlag
  | unknownFlag
  | helpRequested
  | missingValue
  | valueRejected
  | alreadyParsed
  | fileNotFound
  | io
  | decode
  deriving DecidableEq, Repr

namespace FlagError

/-- The kind of a failure; clashes of derived keys count as duplicate flags. -/
def kind : FlagError → ErrorKind
  | .invalidName _ => .invalidName
  | .duplicateFlag _ | .duplicateKey .. | .ambiguousKey .. => .duplicateFlag
  | .unknownFlag _ => .unknownFlag
  | .helpRequested => .helpRequested
  | .missingValue _ => .missingValue
  | .valueRejected .. => .valueRejected
  | .alreadyParsed _ => .alreadyParsed
  | .fileNotFound _ => .fileNotFound
  | .unopenable .. => .io
  | .undecodable _ => .decode

/-- The failure is a request for help. -/
def isHelp : FlagError → Bool
  | .helpRequested => true
  | _ => false

/-- The wording of a failure. -/
def message : FlagError → String
  | .invalidName problem => "invalid flag name: " ++ problem.message
  | .duplicateFlag name => "duplicate flag: " ++ name
  | .duplicateKey key first second =>
    "duplicate environment key " ++ key ++ ": " ++ first ++ ", " ++ second
  | .ambiguousKey key candidates =>
    "ambiguous config key " ++ key ++ ": matches " ++ ", ".intercalate candidates
  | .unknownFlag name => "unknown flag: " ++ name
  | .helpRequested => "help requested"
  | .missingValue flag => "missing value for flag " ++ flag
  | .valueRejected flag value problem =>
    "invalid value " ++ Text.quoted value ++ " for flag " ++ flag ++ ": " ++ problem.message
  | .alreadyParsed set => "flag set " ++ Text.quoted set ++ " already parsed"
  | .fileNotFound path => "config file not found: " ++ path
  | .unopenable path reason => "failed to open config file '" ++ path ++ "': " ++ reason
  | .undecodable cause => "failed to decode config: " ++ cause.message

end FlagError

end LayeredFlags
