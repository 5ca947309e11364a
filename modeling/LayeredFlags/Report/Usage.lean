import LayeredFlags.FlagSet.Basic

/-!
# Usage

The listing of a set of flags that is printed when help is asked for.
-/

namespace LayeredFlags

/-- The names of a flag and the placeholder of its value. -/
def Flag.heading (f : Flag) : String :=
  f.names.listing ++ if f.placeholder = "" then "" else " " ++ f.placeholder

/-- The default of a flag as it is listed: not at all if it is empty, off or an empty list. -/
def Flag.shownDefault? (f : Flag) : Option String :=
  if ["", "false", "[]"].contains f.default then none
  else some ("(default: " ++ f.default ++ ")")

/-- The usage text of a flag and its default. -/
def Flag.detail (f : Flag) : String :=
  match f.shownDefault? with
  | none => f.usage
  | some shown => if f.usage = "" then shown else f.usage ++ " " ++ shown

/-- The lines of a flag. -/
def Flag.usageText (f : Flag) : String :=
  "  " ++ f.heading ++ "\n" ++ if f.detail = "" then "" else "    \t" ++ f.detail ++ "\n"

/-- The lines of a set. -/
def FlagSet.usageText (s : FlagSet) : String :=
  "Usage of " ++ s.name ++ ":\n" ++ String.join (s.flags.map Flag.usageText)

end LayeredFlags
