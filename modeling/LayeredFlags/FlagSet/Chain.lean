import LayeredFlags.Attempt
import LayeredFlags.FlagSet.Basic

/-!
# Chains of flag sets

A set with its ancestors, nearest first.  Lookups walk the set itself, then its parent, then the
parent's parent, and take the first match; a flag is addressed by the depth of its set and its
index there.
-/

namespace LayeredFlags

/-- The place of a flag in a chain; depth zero is the set itself. -/
structure FlagId where
  depth : Nat
  index : Nat
  deriving DecidableEq, Repr

/-- A place in messages. -/
def FlagId.text (id : FlagId) : String :=
  "FlagId \x7b depth: " ++ toString id.depth ++ ", index: " ++ toString id.index ++ " \x7d"

/-- A string for the flag at a place. -/
structure Assignment where
  id : FlagId
  raw : String
  deriving DecidableEq, Repr

/-- A flag set with its ancestors. -/
structure Chain where
  own : FlagSet
  ancestors : List FlagSet := []

namespace Chain

/-- The sets, nearest first. -/
def sets (c : Chain) : List FlagSet :=
  c.own :: c.ancestors

/-! ## Addressing -/

/-- The flag at a place. -/
def flagAt? (c : Chain) (id : FlagId) : Option Flag :=
  c.sets[id.depth]?.bind fun s => s.flags[id.index]?

/-- The set with the flag at an index replaced. -/
def replaceIn (s : FlagSet) (index : Nat) (f : Flag) : FlagSet :=
  { s with flags := s.flags.set index f }

/-- The chain with the flag at a place replaced. -/
def replace (c : Chain) (id : FlagId) (f : Flag) : Chain :=
  match id.depth with
  | 0 => { c with own := replaceIn c.own id.index f }
  | depth + 1 => { c with ancestors := c.ancestors.modify depth (replaceIn · id.index f) }

/-- All flags with their places, nearest set first and in order of registration. -/
def located (c : Chain) : List (FlagId × Flag) :=
  c.sets.zipIdx.flatMap fun (s, depth) => s.flags.zipIdx.map fun (f, index) => (⟨depth, index⟩, f)

/-- The place of the nearest flag of a kind, looking from a depth on. -/
def locateFrom (p : Flag → Bool) : (depth : Nat) → List FlagSet → Option FlagId
  | _, [] => none
  | depth, s :: rest =>
    match s.flags.findIdx? p with
    | some index => some ⟨depth, index⟩
    | none => locateFrom p (depth + 1) rest

/-- The place of the nearest flag of a kind. -/
def locate (c : Chain) (p : Flag → Bool) : Option FlagId :=
  locateFrom p 0 c.sets

/-! ## Lookups -/

/-- The place of the flag that answers to a bare name, with any number of leading dashes. -/
def locateName (c : Chain) (name : String) : Option FlagId :=
  c.locate (·.names.answersTo (bareName name))

/-- The flag that answers to a bare name. -/
def find? (c : Chain) (name : String) : Option Flag :=
  (c.locateName name).bind c.flagAt?

/-- The flag with the short or the long name. -/
def findNamed? (c : Chain) (short : Option Char) (long : Option String) : Option Flag :=
  (c.locate fun f => short.any f.names.hasShort || long.any f.names.hasLong).bind c.flagAt?

/-- The rendering of the value of a flag. -/
def valueOf? (c : Chain) (name : String) : Option String :=
  (c.find? name).map Flag.text

/-- The flag with the name is set. -/
def isSet (c : Chain) (name : String) : Bool :=
  (c.find? name).any Flag.isSet

/-- The places of the flags that are set. -/
def provided (c : Chain) : List FlagId :=
  c.located.filterMap fun (id, f) => if f.isSet then some id else none

/-- Visits every flag, nearest first, up to the first failure. -/
def walk {σ : Type} (c : Chain) (visit : Flag → σ → Attempt σ) (s : σ) : Attempt σ :=
  Attempt.each (fun place => visit place.2) c.located s

/-! ## Assigning -/

/-- The chain after a string is assigned to the flag at a place; it fails and stays what it was if
there is no such flag, or if its value refuses the string. -/
def assign (c : Chain) (id : FlagId) (raw : String) (origin : Origin) : Attempt Chain :=
  match c.flagAt? id with
  | none => ⟨c, some (.unknownFlag id.text)⟩
  | some f =>
    match f.assign raw origin with
    | .ok g => ⟨c.replace id g, none⟩
    | .error e => ⟨c, some e⟩

/-- The chain after assignments from one tier, up to the first that is refused. -/
def assignAll (origin : Origin) (assignments : List Assignment) (c : Chain) : Attempt Chain :=
  Attempt.each (fun a c => c.assign a.id a.raw origin) assignments c

/-- Assigns a string to the flag that answers to a name. -/
def set (c : Chain) (name value : String) : Attempt Chain :=
  match c.locateName name with
  | none => ⟨c, some (.unknownFlag name)⟩
  | some id => c.assign id value .manual

/-- Resets the set itself; its ancestors are left alone. -/
def reset (c : Chain) : Attempt Chain :=
  let (own, failure) := c.own.reset
  ⟨{ c with own }, failure⟩

end Chain

end LayeredFlags
