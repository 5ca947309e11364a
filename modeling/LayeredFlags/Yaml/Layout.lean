import LayeredFlags.Yaml.Property
import LayeredFlags.Yaml.ScalarText

/-!
# The layout of YAML texts

The tokens of a text.  Indentation opens and closes block collections; a node on one line turns
out to be a key only when a colon follows it, so the place of a possible key is remembered and
the key token is put there later.
-/

namespace LayeredFlags.Yaml

/-- A place where a key may have begun. -/
structure PossibleKey where
  /-- The number of tokens before the key. -/
  count : Nat
  /-- The text is wrong unless a colon follows. -/
  required : Bool
  line : Nat
  column : Nat
  offset : Nat

/-- The state of reading tokens. -/
structure Layout where
  cursor : Cursor
  /-- The tokens read, last first, and their number. -/
  tokens : List Token := []
  count : Nat := 0
  /-- The indentation of the innermost block collection; -1 outside all of them. -/
  indent : Int := -1
  /-- The indentations of the collections around it. -/
  outer : List Int := []
  /-- The possible key of each open flow collection, innermost first, and of the block. -/
  keys : List (Option PossibleKey) := [none]
  /-- A key may begin here. -/
  keyAllowed : Bool := true

namespace Layout

/-- The number of open flow collections. -/
def flow (l : Layout) : Nat :=
  l.keys.length - 1

/-- The reading is inside a flow collection. -/
def inFlow (l : Layout) : Bool :=
  0 < l.flow

/-- Adds a token at the end. -/
def push (t : Token) (l : Layout) : Layout :=
  { l with tokens := t :: l.tokens, count := l.count + 1 }

/-- A token put behind all but the first `behind` of tokens in reverse order. -/
def insertBehind (t : Token) : (behind : Nat) → List Token → List Token
  | behind + 1, u :: rest => u :: insertBehind t behind rest
  | _, rest => t :: rest

/-- Adds a token behind the first `count` ones. -/
def insertAt (t : Token) (count : Nat) (l : Layout) : Layout :=
  { l with tokens := insertBehind t (l.count - count) l.tokens, count := l.count + 1 }

/-- Adds a token and moves on by the `n` characters that write it. -/
def take (t : Token) (n : Nat) (l : Layout) : Layout :=
  { l.push t with cursor := l.cursor.skip n }

/-- Adds a token, if it could be read, and moves on behind it. -/
def take? (l : Layout) (read : Option (Token × Cursor)) : Option Layout :=
  read.map fun (t, c) => { l.push t with cursor := c }

/-! ## Possible keys -/

/-- Replaces the possible key of the innermost flow collection or of the block. -/
def setKey (key : Option PossibleKey) (l : Layout) : Layout :=
  { l with keys := key :: l.keys.drop 1 }

/-- The possible key of the innermost flow collection or of the block. -/
def key? (l : Layout) : Option PossibleKey :=
  l.keys.head?.join

/-- Gives up the innermost possible key, which must not be required. -/
def removeKey (l : Layout) : Option Layout :=
  if l.key?.any PossibleKey.required then none else some (l.setKey none)

/-- Remembers that a key may begin here. -/
def saveKey (l : Layout) : Option Layout :=
  if l.keyAllowed then
    let c := l.cursor
    (l.removeKey).map (·.setKey (some
      { count := l.count, required := !l.inFlow && l.indent == c.column,
        line := c.line, column := c.column, offset := c.offset }))
  else some l

/-- The greatest length of a key, in bytes. -/
def keyLimit : Nat := 1024

/-- Gives up the possible keys that ended with their line or grew too long. -/
def dropStaleKeys (l : Layout) : Option Layout :=
  let stale (k : PossibleKey) : Bool :=
    k.line < l.cursor.line || k.offset + keyLimit < l.cursor.offset
  if l.keys.any fun k => k.any fun k => stale k && k.required then none
  else some { l with keys := l.keys.map fun k => k.filter fun k => !stale k }

/-! ## Indentation -/

/-- Closes the block collections that are indented deeper than a column. -/
def unrollFrom (column : Int) : List Int → Layout → Layout
  | [], l => l
  | i :: outer, l =>
    if column < l.indent then unrollFrom column outer { l.push .blockEnd with indent := i, outer }
    else l

/-- Closes the block collections that are indented deeper than a column, unless a flow collection
is open. -/
def unroll (column : Int) (l : Layout) : Layout :=
  if l.inFlow then l else unrollFrom column l.outer l

/-- Opens a block collection at a column that is indented deeper, with its token behind the first
`count` ones. -/
def roll (column : Nat) (t : Token) (count : Nat) (l : Layout) : Layout :=
  if !l.inFlow && l.indent < column then
    { l.insertAt t count with indent := column, outer := l.indent :: l.outer }
  else l

/-! ## Tokens -/

/-- The place of the next token, behind blanks, comments and line ends, and behind the byte order
marks that begin lines.  A tab is no blank where a key may begin. -/
def skipToToken : (steps : Nat) → Layout → Layout
  | 0, l => l
  | steps + 1, l =>
    let tabs := l.inFlow || !l.keyAllowed
    let c := (l.cursor.skipMark.skipWhile fun x => x == ' ' || (tabs && x == '\t')).skipComment
    match c.break? with
    | some (_, c) =>
      skipToToken steps { l with cursor := c, keyAllowed := l.keyAllowed || !l.inFlow }
    | none => { l with cursor := c }

/-- A mark of the beginning or the end of a document, or a directive line. -/
def documentToken? (l : Layout) (read : Option (Token × Cursor)) : Option Layout := do
  let l ← (l.unroll (-1)).removeKey
  { l with keyAllowed := false }.take? read

/-- The beginning of a flow collection. -/
def openFlow? (t : Token) (l : Layout) : Option Layout :=
  l.saveKey.map fun l => { l with keys := none :: l.keys, keyAllowed := true }.take t 1

/-- The end of a flow collection. -/
def closeFlow? (t : Token) (l : Layout) : Option Layout :=
  l.removeKey.map fun l =>
    { l with keys := if l.inFlow then l.keys.drop 1 else l.keys, keyAllowed := false }.take t 1

/-- A comma between the entries of a flow collection. -/
def comma? (l : Layout) : Option Layout :=
  l.removeKey.map fun l => { l with keyAllowed := true }.take .flowEntry 1

/-- A dash before an entry of a block sequence. -/
def dash? (l : Layout) : Option Layout :=
  if !l.inFlow && !l.keyAllowed then none
  else
    (l.roll l.cursor.column .blockSequenceStart l.count).removeKey.map fun l =>
      { l with keyAllowed := true }.take .blockEntry 1

/-- A question mark before a key. -/
def explicitKey? (l : Layout) : Option Layout :=
  if !l.inFlow && !l.keyAllowed then none
  else
    (l.roll l.cursor.column .blockMappingStart l.count).removeKey.map fun l =>
      { l with keyAllowed := !l.inFlow }.take .key 1

/-- A colon before a value.  It makes a key of the innermost possible one. -/
def value? (l : Layout) : Option Layout :=
  match l.key? with
  | some k =>
    let l := ((l.insertAt .key k.count).roll k.column .blockMappingStart k.count).setKey none
    some ({ l with keyAllowed := false }.take .value 1)
  | none =>
    if !l.inFlow && !l.keyAllowed then none
    else
      let l := l.roll l.cursor.column .blockMappingStart l.count
      some ({ l with keyAllowed := !l.inFlow }.take .value 1)

/-- A node or a property of one that may begin a key. -/
def property? (l : Layout) (read : Option (Token × Cursor)) : Option Layout :=
  l.saveKey.bind fun l => { l with keyAllowed := false }.take? read

/-- A quoted scalar. -/
def quotedScalar? (single : Bool) (l : Layout) : Option Layout :=
  l.property? ((quoted? single (l.cursor.skip 1)).map fun (s, c) =>
    (.scalar (if single then .singleQuoted else .doubleQuoted) s, c))

/-- A plain scalar.  A key may begin behind it if its last line is over. -/
def plainScalar? (l : Layout) : Option Layout :=
  match plain? l.inFlow (l.indent + 1) l.cursor, l.saveKey with
  | some (s, broken, c), some l =>
    some { l.push (.scalar .plain s) with cursor := c, keyAllowed := broken }
  | _, _ => none

/-- A block scalar. -/
def blockScalar? (folded : Bool) (l : Layout) : Option Layout :=
  l.removeKey.bind fun l =>
    { l with keyAllowed := true }.take? ((block? folded l.indent (l.cursor.skip 1)).map
      fun (s, c) => (.scalar (if folded then .folded else .literal) s, c))

/-- The characters that no plain scalar begins with, unless text follows directly. -/
def isIndicator (x : Char) : Bool :=
  ['-', '?', ':', ',', '[', ']', '\x7b', '\x7d', '#', '&', '*', '!', '|', '>', '\'', '"', '%',
    '@', '\x60'].contains x

/-- A plain scalar may begin here. -/
def startsPlain (inFlow : Bool) : List Char → Bool
  | [] => false
  | x :: rest =>
    !(isBlank x || isBreak x || isIndicator x) ||
      (x == '-' && !rest.head?.any isBlank) ||
      (!inFlow && (x == '?' || x == ':') && !atBlank rest)

/-- The reading of one token, at its first character. -/
def token? (x : Char) (rest : List Char) (l : Layout) : Option Layout :=
  let c := l.cursor
  let free := l.inFlow || atBlank rest
  if c.column == 0 && x == '%' then l.documentToken? (directive? c)
  else if c.atDocumentMark then
    l.documentToken? (some (if x == '-' then .documentStart else .documentEnd, c.skip 3))
  else if x == '[' then l.openFlow? .flowSequenceStart
  else if x == '\x7b' then l.openFlow? .flowMappingStart
  else if x == ']' then l.closeFlow? .flowSequenceEnd
  else if x == '\x7d' then l.closeFlow? .flowMappingEnd
  else if x == ',' then l.comma?
  else if x == '-' && atBlank rest then l.dash?
  else if x == '?' && free then l.explicitKey?
  else if x == ':' && free then l.value?
  else if x == '*' then
    l.property? ((anchorName? (c.skip 1)).map fun (name, c) => (.alias name, c))
  else if x == '&' then
    l.property? ((anchorName? (c.skip 1)).map fun (name, c) => (.anchor name, c))
  else if x == '!' then l.property? (tag? l.inFlow c)
  else if x == '|' && !l.inFlow then l.blockScalar? false
  else if x == '>' && !l.inFlow then l.blockScalar? true
  else if x == '\'' then l.quotedScalar? true
  else if x == '"' then l.quotedScalar? false
  else if startsPlain l.inFlow c.rest then l.plainScalar?
  else none

/-- The tokens from a place on, in at most `steps` tokens. -/
def tokens? : (steps : Nat) → Layout → Option (List Token)
  | 0, _ => none
  | steps + 1, l =>
    match (l.skipToToken (l.cursor.rest.length + 1)).dropStaleKeys with
    | none => none
    | some l =>
      let l := l.unroll l.cursor.column
      match l.cursor.rest with
      | [] =>
        (l.unroll (-1)).removeKey.map fun l => (l.push .streamEnd).tokens.reverse
      | x :: rest =>
        match l.token? x rest with
        | some l => tokens? steps l
        | none => none

end Layout

/-- The tokens of a whole text. -/
def tokensOf? (s : List Char) : Option (List Token) :=
  if s.all isAllowed then Layout.tokens? (s.length + 1) { cursor := { rest := s } } else none

end LayeredFlags.Yaml
