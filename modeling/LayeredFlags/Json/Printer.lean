import LayeredFlags.Json.Tree

/-!
# Printing JSON

Trees as JSON texts: without blanks, or over several lines with the children of a collection
indented by two more spaces.  Within a string only quotes, backslashes and control characters are
escaped, and code units are written with four digits.
-/

namespace LayeredFlags.Json

/-- The tree of a text. -/
def Tree.ofString (s : String) : Tree :=
  .string (s.toList.map .char)

/-- The letter that escapes a character. -/
def letterEscape? (c : Char) : Option Char :=
  [('"', '"'), ('\\', '\\'), ('\x08', 'b'), ('\x0C', 'f'), ('\n', 'n'), ('\r', 'r'),
    ('\t', 't')].lookup c

/-- A code unit as an escape. -/
def unitText (n : Nat) : List Char :=
  let digits := Nat.toDigits 16 n
  '\\' :: 'u' :: (List.replicate (4 - digits.length) '0' ++ digits)

/-- A piece of a string within quotes. -/
def StringPiece.text : StringPiece → List Char
  | .char c =>
    match letterEscape? c with
    | some letter => ['\\', letter]
    | none => if c.toNat < 0x20 then unitText c.toNat else [c]
  | .unit n => unitText n

/-- A string in quotes. -/
def stringLiteral (pieces : List StringPiece) : List Char :=
  '"' :: (pieces.flatMap StringPiece.text ++ ['"'])

/-- The digits of a number with its sign, its point and its exponent. -/
def NumberLiteral.text (n : NumberLiteral) : List Char :=
  let fraction := match n.fraction with
    | some digits => '.' :: digits
    | none => []
  let exponent := match n.exponent with
    | some (negative, digits) => 'e' :: ((if negative then ['-'] else []) ++ digits)
    | none => []
  (if n.negative then ['-'] else []) ++ n.whole ++ fraction ++ exponent

/-- A value that is neither an array nor an object. -/
def Tree.leafText : Tree → List Char
  | .null => "null".toList
  | .bool b => if b then "true".toList else "false".toList
  | .number n => n.text
  | .string s => stringLiteral s
  | _ => []

mutual

/-- A tree without blanks. -/
def Tree.compact : Tree → List Char
  | .array items => '[' :: (",".toList.intercalate (compactItems items) ++ [']'])
  | .object members =>
    '\x7b' :: (",".toList.intercalate (compactMembers members) ++ ['\x7d'])
  | t => t.leafText

/-- The elements of an array without blanks. -/
def compactItems : List Tree → List (List Char)
  | [] => []
  | t :: rest => t.compact :: compactItems rest

/-- The members of an object without blanks. -/
def compactMembers : List (List StringPiece × Tree) → List (List Char)
  | [] => []
  | (key, t) :: rest => (stringLiteral key ++ ':' :: t.compact) :: compactMembers rest

end

/-- The beginning of a line at an indentation. -/
def newLine (indent : Nat) : List Char :=
  '\n' :: List.replicate indent ' '

/-- Children of a collection on lines of their own, between brackets; a collection without any
is written on one line. -/
def bracketed (indent : Nat) (opening closing : Char) (children : List (List Char)) : List Char :=
  if children.isEmpty then [opening, closing]
  else
    opening :: (",".toList.intercalate (children.map (newLine (indent + 2) ++ ·)) ++
      newLine indent ++ [closing])

mutual

/-- A tree over several lines, at an indentation. -/
def Tree.pretty (indent : Nat) : Tree → List Char
  | .array items => bracketed indent '[' ']' (prettyItems (indent + 2) items)
  | .object members => bracketed indent '\x7b' '\x7d' (prettyMembers (indent + 2) members)
  | t => t.leafText

/-- The elements of an array, at an indentation. -/
def prettyItems (indent : Nat) : List Tree → List (List Char)
  | [] => []
  | t :: rest => t.pretty indent :: prettyItems indent rest

/-- The members of an object, at an indentation. -/
def prettyMembers (indent : Nat) : List (List StringPiece × Tree) → List (List Char)
  | [] => []
  | (key, t) :: rest =>
    (stringLiteral key ++ ':' :: ' ' :: t.pretty indent) :: prettyMembers indent rest

end

end LayeredFlags.Json
