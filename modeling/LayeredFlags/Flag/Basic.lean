import LayeredFlags.Error
import LayeredFlags.Text.Upper
import LayeredFlags.Value.Basic

/-!
# Flags

A flag has names, texts for listings and a value.  An assignment marks it as set and records the
tier that it came from; a reset takes both back.
-/

namespace LayeredFlags

/-- Which tier last assigned a flag. -/
inductive Origin where
  /-- The command line. -/
  | args
  /-- The environment variable `key`. -/
  | env (key : String)
  /-- The configuration file at `path`. -/
  | config (path : String)
  /-- A direct assignment. -/
  | manual
  deriving DecidableEq, Repr

/-- The text of an origin in reports. -/
def Origin.text : Origin → String
  | .args => "args"
  | .env key => "env:" ++ key
  | .config path => "config:" ++ path
  | .manual => "manual"

/-- What a flag is registered from. -/
structure FlagDecl where
  names : FlagNames
  usage : String := ""
  placeholder : Option String := none
  value : Value

/-- A registered flag. -/
structure Flag where
  names : FlagNames
  usage : String
  /-- What stands for the value in listings. -/
  placeholder : String
  /-- The rendering of the value at registration. -/
  default : String
  value : Value
  /-- A tier or a direct assignment gave the flag its value. -/
  isSet : Bool
  /-- Which tier last assigned the flag. -/
  origin : Option Origin

namespace Flag

/-! ## Registration -/

/-- The non-empty text between the first two backticks. -/
def backticked? (usage : String) : Option String :=
  match Text.cutWhere? (· == '\x60') usage.toList with
  | none => none
  | some (_, rest) =>
    match Text.cutWhere? (· == '\x60') rest with
    | none => none
    | some (word, _) => if word.isEmpty then none else some (String.ofList word)

/-- The separators of a name become underscores. -/
def underscored (s : List Char) : List Char :=
  s.map fun c => if c == '-' || c == '.' || c == '/' then '_' else c

/-- The placeholder of a flag whose declaration gives none: nothing for a switch, else the long
name in capitals. -/
def defaultPlaceholder (names : FlagNames) (isBool : Bool) : String :=
  if isBool then ""
  else match names.long with
    | some l => String.ofList (underscored (Text.upper l).toList)
    | none => "VALUE"

/-- The flag of a declaration, not set. -/
def ofDecl (d : FlagDecl) : Flag :=
  { names := d.names
    usage := d.usage
    placeholder := (d.placeholder <|> backticked? d.usage).getD
      (defaultPlaceholder d.names d.value.isBool)
    default := d.value.text
    value := d.value
    isSet := false
    origin := none }

/-! ## Reading -/

/-- The flag may appear without a value. -/
def isBool (f : Flag) : Bool :=
  f.value.isBool

/-- The preferred name. -/
def display (f : Flag) : String :=
  f.names.display

/-- The rendering of the value. -/
def text (f : Flag) : String :=
  f.value.text

/-! ## Assigning -/

/-- The flag after an assignment from a tier. -/
def assign (raw : String) (origin : Origin) (f : Flag) : Except FlagError Flag :=
  match f.value.assign raw with
  | .ok value => .ok { f with value, isSet := true, origin := some origin }
  | .error problem => .error (.valueRejected f.display raw problem)

/-- The flag back in its unset state.  A value that cannot be reset is set to the default
rendering instead. -/
def reset (f : Flag) : Except FlagError Flag :=
  match f.value.restore?.getD (f.value.assign f.default) with
  | .ok value => .ok { f with value, isSet := false, origin := none }
  | .error problem => .error (.valueRejected f.display f.default problem)

end Flag

end LayeredFlags
