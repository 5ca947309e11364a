import LayeredFlags.Config.LineFormat
import LayeredFlags.Text.Blank
import LayeredFlags.Text.Cut

/-!
# The dotenv format

One `KEY=VALUE` a line, with an optional `export ` before it.  A value in single quotes stands as
it is, in double quotes a backslash makes a newline, a tab or the character behind it, and a bare
value ends before ` #`.  Blank lines and lines that begin with `#` are skipped.
-/

namespace LayeredFlags.Dotenv

/-- The text in double quotes, read from behind the opening one. -/
def doubleQuoted? : List Char → Option (List Char)
  | [] => none
  | '"' :: _ => some []
  | ['\\'] => none
  | '\\' :: c :: rest =>
    (doubleQuoted? rest).map ((if c = 'n' then '\n' else if c = 't' then '\t' else c) :: ·)
  | c :: rest => (doubleQuoted? rest).map (c :: ·)

/-- The value of a binding, from the text behind the `=`. -/
def value : List Char → Except DotenvProblem (List Char)
  | '\'' :: rest =>
    match Text.cutWhere? (· == '\'') rest with
    | some (word, _) => .ok word
    | none => .error .openSingleQuote
  | '"' :: rest =>
    match doubleQuoted? rest with
    | some word => .ok word
    | none => .error .openDoubleQuote
  | s => .ok (Text.trim (Text.before [' ', '#'] s))

/-- A key without the stem and the underscore before it, where something is left behind them. -/
def dropStem (stem : Option String) (key : List Char) : List Char :=
  match stem with
  | none => key
  | some stem =>
    if stem = "" then key
    else match Text.dropFront? (stem.toList ++ ['_']) key with
      | some (c :: rest) => c :: rest
      | _ => key

/-- The binding of a line, if it holds one. -/
def binding (stem : Option String) (line : String) :
    Except DotenvProblem (Option (String × String)) :=
  let s := Text.trim line.toList
  if s.isEmpty || s.head? == some '#' then .ok none
  else
    let s := match Text.dropFront? "export ".toList s with
      | some rest => Text.trimStart rest
      | none => s
    match Text.cutWhere? (· == '=') s with
    | none => .error (.notABinding (String.ofList s))
    | some (key, raw) =>
      let key := Text.trim key
      if key.isEmpty then .error .emptyKey
      else (value (Text.trim raw)).map fun v =>
        some (String.ofList (dropStem stem key), String.ofList v)

/-- The dotenv format by lines. -/
def lineFormat (stem : Option String) : LineFormat where
  entry := binding stem
  broken := .readFailed

@[simp] theorem entry_lineFormat (stem : Option String) (line : String) :
    (lineFormat stem).entry line = binding stem line :=
  rfl

/-- The bindings of a source up to the first bad line, their keys without the stem. -/
def decode (stem : Option String) (s : Source) : Decoded :=
  (lineFormat stem).decode s

end LayeredFlags.Dotenv
