import LayeredFlags.Json.Tree
import LayeredFlags.Text.Cut

/-!
# Reading JSON

The grammar of JSON texts.  Each reader takes what it reads from the front of a text and gives
the rest; the text as a whole may end in blanks only.
-/

namespace LayeredFlags.Json

/-- A blank between tokens. -/
def isBlank (c : Char) : Bool :=
  c == ' ' || c == '\n' || c == '\t' || c == '\r'

/-- The text without the blanks at its front. -/
def skipBlanks (s : List Char) : List Char :=
  s.dropWhile isBlank

/-! ## Strings -/

/-- The code unit of four hexadecimal digits. -/
def codeUnit? (a b c d : Char) : Option Nat :=
  Number.natIn? 16 [a, b, c, d]

/-- The character that a one-letter escape stands for. -/
def escaped? : Char → Option Char
  | '"' => some '"'
  | '\\' => some '\\'
  | '/' => some '/'
  | 'b' => some '\x08'
  | 'f' => some '\x0C'
  | 'n' => some '\n'
  | 'r' => some '\r'
  | 't' => some '\t'
  | _ => none

/-- The pieces of a string, read from behind its opening quote. -/
def stringBody? : List Char → Option (List StringPiece × List Char)
  | [] => none
  | '"' :: rest => some ([], rest)
  | '\\' :: 'u' :: a :: b :: c :: d :: rest =>
    match codeUnit? a b c d, stringBody? rest with
    | some n, some (pieces, rest) => some (.unit n :: pieces, rest)
    | _, _ => none
  | '\\' :: e :: rest =>
    match escaped? e, stringBody? rest with
    | some c, some (pieces, rest) => some (.char c :: pieces, rest)
    | _, _ => none
  | c :: rest =>
    if c == '\\' || c.toNat < 0x20 then none
    else (stringBody? rest).map fun (pieces, rest) => (.char c :: pieces, rest)

/-! ## Numbers -/

/-- A run of at least one digit. -/
def digits? (s : List Char) : Option (List Char × List Char) :=
  let (digits, rest) := Number.spanDigits s
  if digits.isEmpty then none else some (digits, rest)

/-- The whole part of a number: no zero before another digit. -/
def whole? (s : List Char) : Option (List Char × List Char) :=
  match s with
  | '0' :: rest => if rest.head?.any Char.isDigit then none else some (['0'], rest)
  | _ => digits? s

/-- The fraction of a number, if there is one. -/
def fraction? : List Char → Option (Option (List Char) × List Char)
  | '.' :: rest => (digits? rest).map fun (digits, rest) => (some digits, rest)
  | s => some (none, s)

/-- The exponent of a number, if there is one. -/
def exponent? : List Char → Option (Option (Bool × List Char) × List Char)
  | c :: rest =>
    if c == 'e' || c == 'E' then
      let (negative, rest) := Number.takeSign rest
      (digits? rest).map fun (digits, rest) => (some (negative, digits), rest)
    else some (none, c :: rest)
  | [] => some (none, [])

/-- A number. -/
def number? (s : List Char) : Option (NumberLiteral × List Char) := do
  let (negative, s) := match s with
    | '-' :: rest => (true, rest)
    | s => (false, s)
  let (whole, s) ← whole? s
  let (fraction, s) ← fraction? s
  let (exponent, s) ← exponent? s
  return (⟨negative, whole, fraction, exponent⟩, s)

/-! ## Texts -/

/-- A value that is neither an array nor an object. -/
def leaf? (s : List Char) : Option (Tree × List Char) :=
  match s with
  | '"' :: rest => (stringBody? rest).map fun (pieces, rest) => (.string pieces, rest)
  | 'n' :: _ => (Text.dropFront? "null".toList s).map (.null, ·)
  | 't' :: _ => (Text.dropFront? "true".toList s).map (.bool true, ·)
  | 'f' :: _ => (Text.dropFront? "false".toList s).map (.bool false, ·)
  | _ => (number? s).map fun (n, rest) => (.number n, rest)

mutual

/-- A value behind blanks; `steps` bounds how deep the readers call each other. -/
def value? : (steps : Nat) → List Char → Option (Tree × List Char)
  | 0, _ => none
  | steps + 1, s =>
    match skipBlanks s with
    | '[' :: rest =>
      match skipBlanks rest with
      | ']' :: rest => some (.array [], rest)
      | rest => (items? steps rest).map fun (items, rest) => (.array items, rest)
    | '\x7b' :: rest =>
      match skipBlanks rest with
      | '\x7d' :: rest => some (.object [], rest)
      | rest => (members? steps rest).map fun (members, rest) => (.object members, rest)
    | s => leaf? s

/-- The elements of an array, up to its end. -/
def items? : (steps : Nat) → List Char → Option (List Tree × List Char)
  | 0, _ => none
  | steps + 1, s =>
    match value? steps s with
    | none => none
    | some (item, rest) =>
      match skipBlanks rest with
      | ']' :: rest => some ([item], rest)
      | ',' :: rest => (items? steps rest).map fun (items, rest) => (item :: items, rest)
      | _ => none

/-- The members of an object, up to its end. -/
def members? : (steps : Nat) → List Char → Option (List (List StringPiece × Tree) × List Char)
  | 0, _ => none
  | steps + 1, s =>
    match skipBlanks s with
    | '"' :: rest =>
      match stringBody? rest with
      | none => none
      | some (key, rest) =>
        match skipBlanks rest with
        | ':' :: rest =>
          match value? steps rest with
          | none => none
          | some (item, rest) =>
            match skipBlanks rest with
            | '\x7d' :: rest => some ([(key, item)], rest)
            | ',' :: rest =>
              (members? steps rest).map fun (members, rest) => ((key, item) :: members, rest)
            | _ => none
        | _ => none
    | _ => none

end

/-- The tree of a whole text.  Two calls never go deeper without a character in between,
so twice the length of the text bounds the steps. -/
def Tree.read? (s : List Char) : Option Tree :=
  match value? (2 * s.length + 1) s with
  | none => none
  | some (t, rest) => if (skipBlanks rest).isEmpty then some t else none

end LayeredFlags.Json
