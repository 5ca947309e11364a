import LayeredFlags.Yaml.Property
import LayeredFlags.Yaml.Value

/-!
# Printing YAML

Values as YAML texts in block style.  The items of a sequence that is the value of a key stand
at the indentation of the key, all other collections two columns deeper.  A scalar is plain where
its text is read back as the same string, quoted where it is not, and a literal block where it has
several lines; what no other style can hold is escaped in double quotes.  A tag stands before its
value.  Some values that begin like the entry of a tag have no text.
-/

namespace LayeredFlags.Yaml

/-! ## What the styles can hold -/

/-- A character that needs no escape. -/
def isPrintable (c : Char) : Bool :=
  let n := c.toNat
  n == 0xA || (0x20 ≤ n && n ≤ 0x7E) || (0xA0 ≤ n && n ≤ 0xFFFD && n != 0xFEFF) || 0x10000 ≤ n

/-- A character that begins something other than a plain scalar. -/
def isLeadIndicator (c : Char) : Bool :=
  ['#', ',', '[', ']', '\x7b', '\x7d', '&', '*', '!', '|', '>', '\'', '"', '%', '@',
    '\x60'].contains c

/-- A text that begins like something other than a plain scalar. -/
def startsIndicated : List Char → Bool
  | '-' :: '-' :: '-' :: _ => true
  | '.' :: '.' :: '.' :: _ => true
  | c :: rest => isLeadIndicator c || ((c == '?' || c == ':' || c == '-') && atBlank rest)
  | [] => false

/-- Two neighbours in a text satisfy a relation. -/
def anyNeighbours (r : Char → Char → Bool) : List Char → Bool
  | a :: b :: rest => r a b || anyNeighbours r (b :: rest)
  | _ => false

/-- A text with a colon or a number sign in it that ends a plain scalar. -/
def holdsIndicator (s : List Char) : Bool :=
  anyNeighbours (fun a b => (a == ':' && (isBlank b || isBreak b)) ||
    ((isBlank a || isBreak a) && b == '#')) s || s.getLast? == some ':'

/-- Some line of the text ends in a space, or some character needs an escape. -/
def needsEscapes (s : List Char) : Bool :=
  anyNeighbours (fun a b => a == ' ' && isBreak b) s || s.any (!isPrintable ·)

/-- The text may be written in single quotes. -/
def fitsSingleQuotes (s : List Char) : Bool :=
  !needsEscapes s && !anyNeighbours (fun a b => isBreak a && b == ' ') s

/-- The text may be written without quotes. -/
def fitsPlain (s : List Char) : Bool :=
  !needsEscapes s && !s.any isBreak && s.head? != some ' ' && s.getLast? != some ' ' &&
    !startsIndicated s && !holdsIndicator s

/-- The text may be written as a block. -/
def fitsBlock (s : List Char) : Bool :=
  !needsEscapes s && !s.isEmpty && s.getLast? != some ' '

/-- A plain scalar with the text is read as the same string. -/
def readsBack (s : List Char) : Bool :=
  match plainValue? s with
  | some (.string _) => !hasLeadingZero s
  | _ => false

/-- The style of a string. -/
def styleOf (s : List Char) : Style :=
  if s.contains '\n' then if fitsBlock s then .literal else .doubleQuoted
  else if readsBack s && fitsPlain s then .plain
  else if fitsSingleQuotes s then .singleQuoted
  else .doubleQuoted

/-! ## Scalars -/

/-- Spaces. -/
def spaces (n : Nat) : List Char :=
  List.replicate n ' '

/-- A text with indentation before each of its lines that is not empty; `fresh` tells that a line
begins. -/
def indented (indent : Nat) : (fresh : Bool) → List Char → List Char
  | _, [] => []
  | fresh, c :: rest =>
    if isBreak c then c :: indented indent true rest
    else (if fresh then spaces indent else []) ++ c :: indented indent false rest

/-- An upper-case hexadecimal number of some digits. -/
def hexText (digits n : Nat) : List Char :=
  let text := (Nat.toDigits 16 n).map Char.toUpper
  List.replicate (digits - text.length) '0' ++ text

/-- The letter that escapes a character. -/
def letterEscape? (c : Char) : Option Char :=
  [('\x00', '0'), ('\x07', 'a'), ('\x08', 'b'), ('\t', 't'), ('\n', 'n'), ('\x0B', 'v'),
    ('\x0C', 'f'), ('\r', 'r'), ('\x1B', 'e'), ('"', '"'), ('\\', '\\'), ('\x85', 'N'),
    ('\xA0', '_'), ('\u2028', 'L'), ('\u2029', 'P')].lookup c

/-- A character within double quotes. -/
def escaped (c : Char) : List Char :=
  if isPrintable c && !isBreak c && c != '"' && c != '\\' then [c]
  else match letterEscape? c with
    | some letter => ['\\', letter]
    | none =>
      let n := c.toNat
      if n ≤ 0xFF then '\\' :: 'x' :: hexText 2 n
      else if n ≤ 0xFFFF then '\\' :: 'u' :: hexText 4 n
      else '\\' :: 'U' :: hexText 8 n

/-- The indicators behind the bar of a literal block: the indentation where its first line begins
with a space or is empty, and what becomes of the line ends at its end. -/
def blockHints (s : List Char) : List Char :=
  let indentation := if s.head?.any fun c => c == ' ' || isBreak c then ['2'] else []
  indentation ++ match s.reverse with
    | a :: rest =>
      if !isBreak a then ['-'] else if rest.head?.all isBreak then ['+'] else []
    | [] => ['-']

/-- A string as a scalar in a collection at an indentation. -/
def stringText (indent : Nat) (s : List Char) : List Char :=
  match styleOf s with
  | .plain => s
  | .singleQuoted =>
    let body := indented indent false (s.flatMap fun c => if c == '\'' then ['\'', '\''] else [c])
    let close := if s.getLast?.any isBreak then spaces indent else []
    '\'' :: (body ++ close ++ ['\''])
  | .literal => '|' :: (blockHints s ++ '\n' :: indented indent true s)
  | _ => '"' :: (s.flatMap escaped ++ ['"'])

/-! ## Tags -/

/-- The whole tag with a name: it begins with an exclamation mark, which the name may bring. -/
def wholeTag (name : List Char) : List Char :=
  if name.head? = some '!' then name else '!' :: name

/-- A character of a tag that is written as itself. -/
def isPlainTagChar (c : Char) : Bool :=
  c != '!' && isTagChar true c

/-- A character of a tag: itself, or an escape of each of its bytes. -/
def escapedTagChar (c : Char) : List Char :=
  if isPlainTagChar c then [c]
  else (String.utf8EncodeChar c).flatMap fun b => '%' :: hexText 2 b.toNat

/-- A tag as it stands before a value: an exclamation mark and the rest of it.  The tag that is an
exclamation mark alone is written within angle brackets. -/
def tagText (name : String) : List Char :=
  match wholeTag name.toList with
  | _ :: c :: rest => '!' :: (c :: rest).flatMap escapedTagChar
  | tag => "!<".toList ++ tag.flatMap escapedTagChar ++ ['>']

/-! ## Collections -/

/-- What stands before a value. -/
structure Lead where
  /-- The value is a key or the value of one. -/
  inMapping : Bool
  /-- An indicator stands before it that counts as indentation. -/
  compact : Bool

/-- The indentation of the entries of a collection in one that is indented by `indent`. -/
def Lead.indentOf (lead : Lead) (isSequence : Bool) (indent : Nat) : Nat :=
  if isSequence && lead.inMapping && !lead.compact then indent else indent + 2

/-- What separates a collection at an indentation from what stands before it. -/
def Lead.opening (lead : Lead) (indent : Nat) : List Char :=
  if lead.compact then [' '] else '\n' :: spaces indent

/-- Texts on lines of their own at an indentation. -/
def joinLines (indent : Nat) : List (List Char) → List Char
  | [] => []
  | [line] => line
  | line :: rest =>
    let ending := if line.getLast?.any isBreak then [] else ['\n']
    line ++ ending ++ spaces indent ++ joinLines indent rest

/-- The greatest length of a key before its colon, in bytes. -/
def simpleKeyLimit : Nat := 128

/-- The length in bytes of a value that may stand on one line as a key, with its tag. -/
def keyLength? : Value → Option Nat
  | .null => some 4
  | .bool b => some (if b then 4 else 5)
  | .int i => some (Number.intText i).length
  | .float x => some (x.text .yaml).utf8ByteSize
  | .string s => if s.toList.any isBreak then none else some s.utf8ByteSize
  | .sequence items => if items.isEmpty then some 0 else none
  | .mapping entries => if entries.isEmpty then some 0 else none
  | .tagged name v => (keyLength? v).map (Text.Utf8.byteLength (wholeTag name.toList) + ·)

/-- A key that stands before its colon on one line. -/
def isSimpleKey (key : Value) : Bool :=
  (keyLength? key).any (· ≤ simpleKeyLimit)

mutual

/-- A value behind an indicator or a key, in a collection at an indentation. -/
def Value.text (indent : Nat) : Lead → Value → List Char
  | _, .null => " null".toList
  | _, .bool b => if b then " true".toList else " false".toList
  | _, .int i => ' ' :: Number.intText i
  | _, .float x => ' ' :: (x.text .yaml).toList
  | _, .string s => ' ' :: stringText (indent + 2) s.toList
  | _, .sequence [] => " []".toList
  | _, .mapping [] => " \x7b\x7d".toList
  | lead, .sequence items =>
    let i := lead.indentOf true indent
    lead.opening i ++ joinLines i (itemTexts i items)
  | lead, .mapping entries =>
    let i := lead.indentOf false indent
    lead.opening i ++ joinLines i (entryTexts i entries)
  | lead, .tagged name v =>
    ' ' :: (tagText name ++ v.text indent { lead with compact := false })

/-- The items of a sequence at an indentation. -/
def itemTexts (indent : Nat) : List Value → List (List Char)
  | [] => []
  | v :: rest =>
    ('-' :: v.text indent { inMapping := false, compact := true }) :: itemTexts indent rest

/-- The entries of a mapping at an indentation. -/
def entryTexts (indent : Nat) : List (Value × Value) → List (List Char)
  | [] => []
  | (key, value) :: rest =>
    let lead : Lead := { inMapping := true, compact := true }
    let entry :=
      if isSimpleKey key then
        (key.text indent lead).drop 1 ++
          ':' :: value.text indent { lead with compact := false }
      else
        joinLines indent ['?' :: key.text indent lead, ':' :: value.text indent lead]
    entry :: entryTexts indent rest

end

/-! ## Documents -/

/-- A value that begins like the entry of a tag: a tagged one, or a mapping of one entry. -/
def Value.resemblesTag : Value → Bool
  | .tagged _ _ => true
  | .mapping entries => entries.length == 1
  | _ => false

mutual

/-- A value has a text.  The only key of a mapping must not resemble a tag, unless a tag stands
right before the mapping, and no tag stands right before another one. -/
def Value.isWritable : (tagged : Bool) → Value → Bool
  | _, .sequence items => writableItems items
  | tagged, .mapping entries =>
    (tagged || entries.length != 1 || !entries.any (·.1.resemblesTag)) && writableEntries entries
  | tagged, .tagged _ v => !tagged && v.isWritable true
  | _, _ => true

/-- The items of a sequence have texts. -/
def writableItems : List Value → Bool
  | [] => true
  | v :: rest => v.isWritable false && writableItems rest

/-- The keys and values of a mapping have texts. -/
def writableEntries : List (Value × Value) → Bool
  | [] => true
  | (key, value) :: rest => key.isWritable false && value.isWritable false && writableEntries rest

end

/-- The text of a whole document, without the line end that ends it. -/
def Value.print : Value → List Char
  | .sequence (v :: rest) => joinLines 0 (itemTexts 0 (v :: rest))
  | .mapping (e :: rest) => joinLines 0 (entryTexts 0 (e :: rest))
  | v => (v.text 0 { inMapping := false, compact := false }).drop 1

/-- The text of a whole document, if it has one. -/
def Value.print? (v : Value) : Option (List Char) :=
  if v.isWritable false then some v.print else none

end LayeredFlags.Yaml
