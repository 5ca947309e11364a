import LayeredFlags.Text.Cut
import LayeredFlags.Toml.Datetime
import LayeredFlags.Toml.Scalar

/-!
# TOML expressions

A TOML text is a sequence of lines that bind a key, open a table, or open an element of an array
of tables.  Keys are paths; values nest arrays and inline tables up to a fixed depth.
-/

namespace LayeredFlags.Toml

/-- A value as it is written. -/
inductive Value where
  | string (s : String)
  | number (n : Number)
  | bool (b : Bool)
  | datetime (t : Datetime)
  | array (items : List Value)
  | inline (bindings : List (List String × Value))
  deriving Repr

/-- One line of a text. -/
inductive Expression where
  | bind (path : List String) (value : Value)
  | table (path : List String)
  | element (path : List String)
  deriving Repr

/-! ## Blanks and comments -/

/-- The text without the blanks at its front. -/
def skipBlanks (s : List Char) : List Char :=
  s.dropWhile isBlank

/-- The rest behind the end of a line, which blanks and a comment may precede. -/
def lineEnd? (s : List Char) : Option (List Char) :=
  let s := skipBlanks s
  let s := if s.head? = some '#' then s.dropWhile isText else s
  match s with
  | [] => some []
  | '\n' :: rest => some rest
  | '\r' :: '\n' :: rest => some rest
  | _ => none

/-- The text without the blanks, line ends and comments at its front. -/
def skipGaps (inComment : Bool) : List Char → List Char
  | [] => []
  | '\n' :: rest => skipGaps false rest
  | '\r' :: '\n' :: rest => skipGaps false rest
  | c :: rest =>
    if inComment then if isText c then skipGaps true rest else c :: rest
    else if isBlank c then skipGaps false rest
    else if c == '#' then skipGaps true rest
    else c :: rest

/-! ## Keys -/

/-- A character of a bare key. -/
def isKeyChar (c : Char) : Bool :=
  c.isAlphanum || c == '_' || c == '-'

/-- One part of a key. -/
def simpleKey? : List Char → Option (String × List Char)
  | '"' :: rest => (basicString? rest).map fun (s, rest) => (String.ofList s, rest)
  | '\'' :: rest => (literalString? rest).map fun (s, rest) => (String.ofList s, rest)
  | s =>
    let (key, rest) := s.span isKeyChar
    if key.isEmpty then none else some (String.ofList key, rest)

/-- A key of parts with dots between, and blanks around each part. -/
def keyParts? : (steps : Nat) → List Char → Option (List String × List Char)
  | 0, _ => none
  | steps + 1, s =>
    match simpleKey? (skipBlanks s) with
    | none => none
    | some (part, rest) =>
      match skipBlanks rest with
      | '.' :: rest => (keyParts? steps rest).map fun (parts, rest) => (part :: parts, rest)
      | rest => some ([part], rest)

/-- How many parts a key, or collections in one another, may not reach. -/
def nestingLimit : Nat := 80

/-- A key. -/
def key? (s : List Char) : Option (List String × List Char) :=
  match keyParts? s.length s with
  | some (parts, rest) => if parts.length < nestingLimit then some (parts, rest) else none
  | none => none

/-! ## Values -/

/-- A value that holds no others. -/
def leaf? (s : List Char) : Option (Value × List Char) :=
  match s with
  | [] => none
  | c :: _ =>
    if c == '"' || c == '\'' then
      (string? s).map fun (t, rest) => (.string (String.ofList t), rest)
    else if c == 't' then (Text.dropFront? "true".toList s).map (.bool true, ·)
    else if c == 'f' then (Text.dropFront? "false".toList s).map (.bool false, ·)
    else if beginsDigits 4 '-' s || beginsDigits 2 ':' s then
      (datetime? s).map fun (t, rest) => (.datetime t, rest)
    else (number? s).map fun (n, rest) => (.number n, rest)

mutual

/-- A value; `room` is how many collections it may still nest, and `steps` bounds how deep the
readers call each other. -/
def value? (room : Nat) : (steps : Nat) → List Char → Option (Value × List Char)
  | 0, _ => none
  | steps + 1, s =>
    match s with
    | '[' :: rest =>
      if room = 0 then none
      else (items? (room - 1) steps (skipGaps false rest)).map fun (items, rest) =>
        (.array items, rest)
    | '\x7b' :: rest =>
      if room = 0 then none
      else match skipBlanks rest with
        | '\x7d' :: rest => some (.inline [], rest)
        | rest => (bindings? (room - 1) steps rest).map fun (bindings, rest) =>
          (.inline bindings, rest)
    | s => leaf? s

/-- The elements of an array, up to its end; a comma may stand behind the last. -/
def items? (room : Nat) : (steps : Nat) → List Char → Option (List Value × List Char)
  | 0, _ => none
  | steps + 1, s =>
    match s with
    | ']' :: rest => some ([], rest)
    | s =>
      match value? room steps s with
      | none => none
      | some (v, rest) =>
        match skipGaps false rest with
        | ']' :: rest => some ([v], rest)
        | ',' :: rest =>
          (items? room steps (skipGaps false rest)).map fun (items, rest) => (v :: items, rest)
        | _ => none

/-- The bindings of an inline table, up to its end. -/
def bindings? (room : Nat) : (steps : Nat) → List Char →
    Option (List (List String × Value) × List Char)
  | 0, _ => none
  | steps + 1, s =>
    match key? s with
    | some (path, '=' :: rest) =>
      match value? room steps (skipBlanks rest) with
      | none => none
      | some (v, rest) =>
        match skipBlanks rest with
        | '\x7d' :: rest => some ([(path, v)], rest)
        | ',' :: rest =>
          (bindings? room steps rest).map fun (bindings, rest) => ((path, v) :: bindings, rest)
        | _ => none
    | _ => none

end

/-! ## Lines -/

/-- A line behind its blanks. -/
def line? (s : List Char) : Option (Expression × List Char) :=
  match s with
  | '[' :: '[' :: rest =>
    match key? rest with
    | some (path, ']' :: ']' :: rest) => (lineEnd? rest).map (.element path, ·)
    | _ => none
  | '[' :: rest =>
    match key? rest with
    | some (path, ']' :: rest) => (lineEnd? rest).map (.table path, ·)
    | _ => none
  | _ =>
    match key? s with
    | some (path, '=' :: rest) =>
      match value? (nestingLimit - 1) (2 * rest.length + 1) (skipBlanks rest) with
      | some (v, rest) => (lineEnd? rest).map (.bind path v, ·)
      | none => none
    | _ => none

/-- The expressions of a text. -/
def lines? : (steps : Nat) → List Char → Option (List Expression)
  | 0, _ => none
  | steps + 1, s =>
    let s := skipBlanks s
    if s.isEmpty then some []
    else match lineEnd? s with
      | some rest => lines? steps rest
      | none =>
        match line? s with
        | some (e, rest) => (lines? steps rest).map (e :: ·)
        | none => none

/-- The expressions of a whole text, which a byte order mark may precede. -/
def expressions? (s : List Char) : Option (List Expression) :=
  let s := if s.head? = some '\uFEFF' then s.drop 1 else s
  lines? (s.length + 1) s

end LayeredFlags.Toml
