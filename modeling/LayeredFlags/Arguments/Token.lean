import LayeredFlags.Text.Cut

/-!
# Argument tokens

What an argument in flag position is: a positional argument, a token that ends the flags, a long
flag with or without a value of its own, or a bundle of short flags.
-/

namespace LayeredFlags

/-- An argument that names flags. -/
inductive FlagToken where
  /-- A long flag behind one or two dashes, with the text after the first `=`. -/
  | long (dashes name : String) (explicit : Option String)
  /-- The letters of short flags. -/
  | short (letters : List Char)
  deriving DecidableEq, Repr

/-- An argument in flag position. -/
inductive ArgToken where
  /-- No flag; it ends the flags and is left over. -/
  | positional
  /-- `-` or `--`; it ends the flags and is dropped. -/
  | terminator
  /-- An argument that names flags. -/
  | flag (token : FlagToken)
  deriving DecidableEq, Repr

/-- A long flag read from the text behind the dashes. -/
def FlagToken.ofBody (dashes : String) (body : List Char) : FlagToken :=
  match Text.cutWhere? (· == '=') body with
  | some (name, value) => .long dashes (String.ofList name) (some (String.ofList value))
  | none => .long dashes (String.ofList body) none

/-- The token of an argument; in compatibility mode one dash makes a long flag too. -/
def ArgToken.ofArg (compat : Bool) (arg : String) : ArgToken :=
  match arg.toList with
  | ['-'] => .terminator
  | ['-', '-'] => .terminator
  | '-' :: '-' :: body => .flag (.ofBody "--" body)
  | '-' :: body => .flag (if compat then .ofBody "-" body else .short body)
  | _ => .positional

end LayeredFlags
