import LayeredFlags.Flag.Basic

/-!
# Flag sets

An ordered collection of flags.  A flag is added only if its names are admissible and free, so
that within a set a bare name reaches at most one flag.
-/

namespace LayeredFlags

/-- A set of flags with the state of its last parse. -/
structure FlagSet where
  name : String
  flags : List Flag := []
  /-- Every single-dash token is read as a long flag, and short flags are not bundled. -/
  compat : Bool := false
  /-- A parse has succeeded since the last reset. -/
  parsed : Bool := false
  /-- The arguments that the last successful parse left over. -/
  leftovers : List String := []

namespace FlagSet

/-- The set after registering a flag. -/
def add (s : FlagSet) (d : FlagDecl) : Except FlagError FlagSet :=
  let flag := Flag.ofDecl d
  match d.names.problem? with
  | some problem => .error (.invalidName problem)
  | none =>
    if flag.isBool && flag.default == "true" && flag.names.long.isNone then
      .error (.invalidName (.needsLong flag.names.listing))
    else match s.flags.findSome? (·.names.collision? flag.names) with
      | some name => .error (.duplicateFlag name)
      | none => .ok { s with flags := s.flags ++ [flag] }

/-- The flags with the ones before the first failure reset, and that failure. -/
def resetFlags : List Flag → List Flag × Option FlagError
  | [] => ([], none)
  | f :: fs =>
    match f.reset with
    | .error e => (f :: fs, some e)
    | .ok g => let (gs, failure) := resetFlags fs; (g :: gs, failure)

/-- The set with its flags reset, not parsed and without leftovers.  The first flag that cannot
be reset ends this; the flags before it stay reset, and all else stays as it was. -/
def reset (s : FlagSet) : FlagSet × Option FlagError :=
  match resetFlags s.flags with
  | (flags, none) => ({ s with flags, parsed := false, leftovers := [] }, none)
  | (flags, some e) => ({ s with flags }, some e)

end FlagSet

end LayeredFlags
