import LayeredFlags.Flag.Basic

/-!
# Derived keys

The environment keys of a flag: its names without leading dashes, `-`, `.` and `/` read as `_`,
behind an optional stem, in capitals unless case is kept.
-/

namespace LayeredFlags

/-- How keys are derived. -/
structure KeyRules where
  /-- Stands before every key, divided by an underscore, when it is not empty. -/
  stem : Option String := none
  /-- A short name derives a key too. -/
  shortNames : Bool := false
  /-- Letters keep their case. -/
  caseSensitive : Bool := false
  deriving DecidableEq, Repr

/-- A name without leading dashes and with its separators as underscores. -/
def keyBody (name : String) : String :=
  String.ofList (Flag.underscored (Text.dropDashes name.toList))

namespace KeyRules

/-- A key in the case that the rules ask for. -/
def fold (r : KeyRules) (key : String) : String :=
  if r.caseSensitive then key else Text.upper key

/-- What stands before the name in every key. -/
def lead (r : KeyRules) : String :=
  match r.stem with
  | some stem => if stem = "" then "" else stem ++ "_"
  | none => ""

/-- The key of a name. -/
def key (r : KeyRules) (name : String) : String :=
  r.fold (r.lead ++ keyBody name)

/-- The keys of a flag: that of the long name, then that of the short name where the rules ask
for it; equal keys are one. -/
def keys (r : KeyRules) (f : Flag) : List String :=
  let long := f.names.long.map r.key
  let short := if r.shortNames then f.names.short.map fun c => r.key (String.singleton c) else none
  if short == long then long.toList else long.toList ++ short.toList

end KeyRules

end LayeredFlags
