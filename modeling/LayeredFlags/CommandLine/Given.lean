import LayeredFlags.Text.Cut

/-!
# Options on a command line

The options that a list of words gives.  A switch stands alone; any other option takes its value
from behind an equals sign or from the next word, which must not look like an option.  No option
is given twice, and what follows two dashes is left as it is.
-/

namespace LayeredFlags.CommandLine

/-- The options that are known, by their names. -/
structure OptionTable where
  switches : List String
  valued : List String := []

/-- The options that are given. -/
structure Given where
  switches : List String := []
  values : List (String × String) := []
  /-- The words behind two dashes. -/
  tail : List String := []

namespace Given

/-- One more switch, which must be new. -/
def turnOn? (name : String) (g : Given) : Option Given :=
  if g.switches.contains name then none else some { g with switches := name :: g.switches }

/-- One more option with a value, which must be new. -/
def assign? (name value : String) (g : Given) : Option Given :=
  if (g.values.lookup name).isSome then none
  else some { g with values := (name, value) :: g.values }

/-- The value of an option. -/
def value? (g : Given) (name : String) : Option String :=
  g.values.lookup name

/-- A switch is given. -/
def has (g : Given) (name : String) : Bool :=
  g.switches.contains name

end Given

/-- The name of a long option and the value behind its equals sign. -/
def longOption? (word : String) : Option (String × Option String) :=
  match word.toList with
  | '-' :: '-' :: rest =>
    match Text.cut? ['='] rest with
    | some (name, value) => some (String.ofList name, some (String.ofList value))
    | none => some (String.ofList rest, none)
  | _ => none

/-- A word that is no value of an option: it begins with a dash and is longer. -/
def isDashed (word : String) : Bool :=
  match word.toList with
  | '-' :: _ :: _ => true
  | _ => false

/-- The name of the switch that may be given anywhere. -/
def verbose : String := "verbose"

/-- A word is the switch that may be given anywhere. -/
def isVerbose (word : String) : Bool :=
  word == "-v" || word == "--verbose"

/-- The options that words give, unless they break the rules. -/
def OptionTable.read? (t : OptionTable) : List String → Option Given
  | [] => some {}
  | word :: rest =>
    if word = "--" then some { tail := rest }
    else if isVerbose word then (t.read? rest).bind (·.turnOn? verbose)
    else match longOption? word with
      | none => none
      | some (name, explicit) =>
        if t.switches.contains name then
          if explicit.isSome then none else (t.read? rest).bind (·.turnOn? name)
        else if t.valued.contains name then
          match explicit with
          | some value => (t.read? rest).bind (·.assign? name value)
          | none =>
            match rest with
            | [] => none
            | value :: rest =>
              if isDashed value then none else (t.read? rest).bind (·.assign? name value)
        else none

end LayeredFlags.CommandLine
