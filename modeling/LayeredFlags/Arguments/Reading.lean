import LayeredFlags.Arguments.Token
import LayeredFlags.FlagSet.Chain

/-!
# Reading arguments

An argument list is read from left to right, and the flags of a chain are assigned as they are
read.  The first argument that names no flag ends this, and so does the first failure; what was
assigned before stays assigned.
-/

namespace LayeredFlags

/-- The chain after something was read, and what came of it or why it failed. -/
structure ArgReading (α : Type) where
  chain : Chain
  outcome : Except FlagError α

namespace Chain

/-! ## Which flag a token names -/

/-- The flag at a place is a switch. -/
def isBoolAt (c : Chain) (id : FlagId) : Bool :=
  (c.flagAt? id).any Flag.isBool

/-- The place of the flag that a long token names; in compatibility mode a short name will do. -/
def locateLong (c : Chain) (name : String) : Option FlagId :=
  c.locate fun f => f.names.hasLong name || (c.own.compat && f.names.answersTo name)

/-- The place of the flag that a short letter names. -/
def locateShort (c : Chain) (letter : Char) : Option FlagId :=
  c.locate (·.names.hasShort letter)

/-- A long name that no flag claims asks for help, or is unknown. -/
def unclaimedLong (c : Chain) (dashes name : String) : FlagError :=
  if Text.asciiLower name = "help" || (c.own.compat && name = "h") then .helpRequested
  else .unknownFlag (dashes ++ name)

/-- A letter that no flag claims asks for help, or is unknown. -/
def unclaimedShort (letter : Char) : FlagError :=
  if letter = 'h' then .helpRequested else .unknownFlag (FlagNames.dashedShort letter)

/-! ## Carrying out tokens -/

/-- Assigns a string that a token holds, or that it takes from the next argument.  What comes of a
token is whether it takes the next argument along. -/
def accept (c : Chain) (id : FlagId) (raw : String) (takesNext : Bool) : ArgReading Bool :=
  match c.assign id raw .args with
  | ⟨c, none⟩ => ⟨c, .ok takesNext⟩
  | ⟨c, some e⟩ => ⟨c, .error e⟩

/-- Carries out a long flag.  A switch without a value of its own takes the next argument only if
that is a literal of truth; any other flag takes it whatever it is. -/
def runLong (c : Chain) (dashes name : String) (explicit next : Option String) : ArgReading Bool :=
  match c.locateLong name with
  | none => ⟨c, .error (c.unclaimedLong dashes name)⟩
  | some id =>
    if c.isBoolAt id then
      match explicit with
      | some value => c.accept id (if value = "" then "true" else value) false
      | none =>
        match next.filter fun raw => (boolLiteral? raw).isSome with
        | some literal => c.accept id literal true
        | none => c.accept id "true" false
    else
      match explicit, next with
      | some value, _ => c.accept id value false
      | none, some value => c.accept id value true
      | none, none => ⟨c, .error (.missingValue (dashes ++ name))⟩

/-- Carries out a bundle of short flags.  Switches are turned on one after the other; the first
other flag takes the rest of the bundle as its value, or the next argument if there is no rest. -/
def runShort (next : Option String) : List Char → Chain → ArgReading Bool
  | [], c => ⟨c, .ok false⟩
  | letter :: rest, c =>
    match c.locateShort letter with
    | none => ⟨c, .error (unclaimedShort letter)⟩
    | some id =>
      if c.isBoolAt id then
        match c.assign id "true" .args with
        | ⟨c, none⟩ => runShort next rest c
        | ⟨c, some e⟩ => ⟨c, .error e⟩
      else
        match rest, next with
        | _ :: _, _ => c.accept id (String.ofList rest) false
        | [], some value => c.accept id value true
        | [], none => ⟨c, .error (.missingValue (FlagNames.dashedShort letter))⟩

/-- Carries out a token that names flags, given the argument behind it. -/
def runFlag (c : Chain) (next : Option String) : FlagToken → ArgReading Bool
  | .long dashes name explicit => c.runLong dashes name explicit next
  | .short letters => c.runShort next letters

/-! ## Argument lists -/

/-- Reads an argument list; what comes of it are the leftover arguments. -/
def readArgs (c : Chain) : List String → ArgReading (List String)
  | [] => ⟨c, .ok []⟩
  | arg :: rest =>
    match ArgToken.ofArg c.own.compat arg with
    | .positional => ⟨c, .ok (arg :: rest)⟩
    | .terminator => ⟨c, .ok rest⟩
    | .flag token =>
      match c.runFlag rest.head? token with
      | ⟨c, .error e⟩ => ⟨c, .error e⟩
      | ⟨c, .ok false⟩ => c.readArgs rest
      | ⟨c, .ok true⟩ =>
        match rest with
        | [] => ⟨c, .ok []⟩
        | _ :: more => c.readArgs more

end Chain

end LayeredFlags
