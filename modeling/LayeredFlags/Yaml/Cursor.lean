import LayeredFlags.Text.Utf8

/-!
# Places in a YAML text

Character classes, and a place in a text: what is left of the text there, and the line, the
column and the offset of the place.  Columns count characters, offsets count bytes.  Indentation
and the rules for keys speak of these.
-/

namespace LayeredFlags.Yaml

/-! ## Characters -/

/-- A character that a text may hold. -/
def isAllowed (c : Char) : Bool :=
  let n := c.toNat
  c == '\t' || c == '\n' || c == '\r' || (0x20 ≤ n && n ≤ 0x7E) || n == 0x85 ||
    (0xA0 ≤ n && n ≤ 0xFFFD) || 0x10000 ≤ n

/-- A space or a tab. -/
def isBlank (c : Char) : Bool :=
  c == ' ' || c == '\t'

/-- A character that ends a line. -/
def isBreak (c : Char) : Bool :=
  c == '\n' || c == '\r' || c == '\x85' || c == '\u2028' || c == '\u2029'

/-- A character of names. -/
def isNameChar (c : Char) : Bool :=
  c.isAlphanum || c == '_' || c == '-'

/-- The text is at its end, at a blank or at a line end. -/
def atBlank : List Char → Bool
  | [] => true
  | c :: _ => isBlank c || isBreak c

/-- The text is at its end or at a line end. -/
def atLineEnd : List Char → Bool
  | [] => true
  | c :: _ => isBreak c

/-! ## Cursors -/

/-- A place in a text. -/
structure Cursor where
  rest : List Char
  line : Nat := 0
  column : Nat := 0
  offset : Nat := 0
  deriving Repr

namespace Cursor

/-- The place some characters of the same line further on. -/
def skip (n : Nat) (c : Cursor) : Cursor :=
  { c with
    rest := c.rest.drop n
    column := c.column + n
    offset := c.offset + Text.Utf8.byteLength (c.rest.take n) }

/-- The place behind the characters of a class. -/
def skipWhile (p : Char → Bool) (c : Cursor) : Cursor :=
  c.skip (c.rest.takeWhile p).length

/-- The place at the beginning of the next line, behind `n` characters. -/
def nextLine (n : Nat) (c : Cursor) : Cursor :=
  { rest := c.rest.drop n
    line := c.line + 1
    column := 0
    offset := c.offset + Text.Utf8.byteLength (c.rest.take n) }

/-- The line end here as text, and the place behind it.  A carriage return with or without a
newline and a next-line character count as a newline. -/
def break? (c : Cursor) : Option (Char × Cursor) :=
  match c.rest with
  | '\r' :: '\n' :: _ => some ('\n', c.nextLine 2)
  | x :: _ =>
    if x == '\u2028' || x == '\u2029' then some (x, c.nextLine 1)
    else if isBreak x then some ('\n', c.nextLine 1)
    else none
  | [] => none

/-- The place behind the line end here, if there is one. -/
def skipBreak (c : Cursor) : Cursor :=
  match c.break? with
  | some (_, c) => c
  | none => c

/-- The place behind the byte order mark that begins the line here, if one does.  The mark is no
text but takes up a column. -/
def skipMark (c : Cursor) : Cursor :=
  if c.column = 0 && c.rest.head? = some '\uFEFF' then c.skip 1 else c

/-- The place at the end of the line of a comment that begins here, if one does. -/
def skipComment (c : Cursor) : Cursor :=
  if c.rest.head? = some '#' then c.skipWhile (!isBreak ·) else c

/-- Three dashes or three dots make up the beginning of the line. -/
def atDocumentMark (c : Cursor) : Bool :=
  c.column == 0 &&
    match c.rest with
    | '-' :: '-' :: '-' :: rest => atBlank rest
    | '.' :: '.' :: '.' :: rest => atBlank rest
    | _ => false

end Cursor

/-! ## Gaps -/

/-- The blanks and line ends between two words. -/
structure Gap where
  /-- The blanks before the first line end. -/
  blanks : List Char := []
  breaks : List Char := []
  /-- The least column of a tab behind a line end. -/
  tab : Option Nat := none
  deriving Repr

/-- The gap as text: one line end becomes a space, more lose the first one. -/
def Gap.folded (g : Gap) : List Char :=
  match g.breaks with
  | [] => g.blanks
  | '\n' :: [] => [' ']
  | '\n' :: more => more
  | breaks => breaks

/-- Reads a gap in at most `steps` steps; `g` holds what was read, in reverse. -/
def readGapFrom (broken : Bool) : (steps : Nat) → Gap → Cursor → Gap × Cursor
  | 0, g, c => (g, c)
  | steps + 1, g, c =>
    match c.rest with
    | [] => (g, c)
    | x :: _ =>
      if isBlank x then
        if broken || !g.breaks.isEmpty then
          let tab := if x == '\t' then
              some (match g.tab with
                | some t => min t c.column
                | none => c.column)
            else g.tab
          readGapFrom broken steps { g with tab } (c.skip 1)
        else readGapFrom broken steps { g with blanks := x :: g.blanks } (c.skip 1)
      else match c.break? with
        | some (b, c) => readGapFrom broken steps { g with breaks := b :: g.breaks } c
        | none => (g, c)

/-- The gap at a place, and the place behind it.  A gap that is `broken` already stands behind a
line end that does not count. -/
def readGap (broken : Bool) (c : Cursor) : Gap × Cursor :=
  let (g, c') := readGapFrom broken c.rest.length {} c
  ({ g with blanks := g.blanks.reverse, breaks := g.breaks.reverse }, c')

end LayeredFlags.Yaml
