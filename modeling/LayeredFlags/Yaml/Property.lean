import LayeredFlags.Number.Digits
import LayeredFlags.Text.Utf8
import LayeredFlags.Yaml.Cursor
import LayeredFlags.Yaml.Token

/-!
# Anchors, tags and directives in a YAML text

The readers of node properties and of directive lines.  Each begins at the indicator and gives
the place behind what it reads.
-/

namespace LayeredFlags.Yaml

/-- The name of an anchor or an alias, read from behind its indicator.  It must not run into other
text. -/
def anchorName? (c : Cursor) : Option (List Char × Cursor) :=
  let name := c.rest.takeWhile isNameChar
  let c := c.skip name.length
  let ended := atBlank c.rest ||
    c.rest.head?.any fun x => ['?', ':', ',', ']', '\x7d', '%', '@', '\x60'].contains x
  if name.isEmpty || !ended then none else some (name, c)

/-! ## Tags -/

/-- A character of a tag that stands for itself; in angle brackets and directives some flow
indicators do so too. -/
def isTagChar (wide : Bool) (x : Char) : Bool :=
  isNameChar x || [';', '/', '?', ':', '@', '&', '=', '+', '$', '.', '!', '~', '*', '\'', '(',
    ')'].contains x || (wide && (x == ',' || x == '[' || x == ']'))

/-- The byte that an escape at the front of a text stands for. -/
def escapedByte? : List Char → Option Nat
  | '%' :: a :: b :: _ => Number.natIn? 16 [a, b]
  | _ => none

/-- The number of bytes of a character, as the first of them tells. -/
def sizeByFirst? (first : Nat) : Option Nat :=
  if first < 0x80 then some 1
  else if first < 0xC0 then none
  else if first < 0xE0 then some 2
  else if first < 0xF0 then some 3
  else if first < 0xF8 then some 4
  else none

/-- The bytes of `n` escapes that continue a character. -/
def continuation? : (n : Nat) → List Char → Option (List UInt8)
  | 0, _ => some []
  | n + 1, s =>
    match escapedByte? s with
    | some b =>
      if 0x80 ≤ b && b < 0xC0 then (continuation? n (s.drop 3)).map (UInt8.ofNat b :: ·) else none
    | none => none

/-- The bytes of the escapes of one character at the front of a text. -/
def escapedBytes? (s : List Char) : Option (List UInt8) := do
  let b ← escapedByte? s
  let n ← sizeByFirst? b
  let rest ← continuation? (n - 1) (s.drop 3)
  return UInt8.ofNat b :: rest

/-- The text of a tag in bytes and the number of characters that write it, in at most `steps`
steps. -/
def tagText? (wide : Bool) : (steps : Nat) → List Char → Option (List UInt8 × Nat)
  | 0, _ => none
  | steps + 1, s =>
    match s with
    | '%' :: _ =>
      match escapedBytes? s with
      | none => none
      | some bytes =>
        (tagText? wide steps (s.drop (3 * bytes.length))).map fun (text, n) =>
          (bytes ++ text, n + 3 * bytes.length)
    | x :: rest =>
      if isTagChar wide x then
        (tagText? wide steps rest).map fun (text, n) => (Text.Utf8.encode [x] ++ text, n + 1)
      else some ([], 0)
    | [] => some ([], 0)

/-- The text of a tag at a place. -/
def tagTextAt? (wide : Bool) (c : Cursor) : Option (List UInt8 × Cursor) :=
  (tagText? wide (c.rest.length + 1) c.rest).map fun (text, n) => (text, c.skip n)

/-- The bytes before the first zero, which ends the text of a tag. -/
def untilZero (bytes : List UInt8) : List UInt8 :=
  bytes.takeWhile (· != 0)

/-- The byte of an exclamation mark. -/
def exclamation : UInt8 := 0x21

/-- A handle: an exclamation mark, name characters, and another exclamation mark if there is
one. -/
def handle (c : Cursor) : List Char × Cursor :=
  let c := c.skip 1
  let name := c.rest.takeWhile isNameChar
  let c := c.skip name.length
  if c.rest.head? = some '!' then ('!' :: name ++ ['!'], c.skip 1) else ('!' :: name, c)

/-- A tag as a handle and a suffix. -/
def tag? (flow : Bool) (c : Cursor) : Option (Token × Cursor) :=
  let read : Option (Token × Cursor) :=
    if c.rest[1]? = some '<' then
      match tagTextAt? true (c.skip 2) with
      | some (suffix, c) =>
        if suffix.isEmpty || c.rest.head? ≠ some '>' then none
        else some (.tag [] (untilZero suffix), c.skip 1)
      | none => none
    else
      let (h, c) := handle c
      if 2 ≤ h.length && h.getLast? = some '!' then
        match tagTextAt? false c with
        | some (suffix, c) => if suffix.isEmpty then none else some (.tag h (untilZero suffix), c)
        | none => none
      else
        (tagTextAt? false c).map fun (suffix, c) =>
          let suffix := untilZero (Text.Utf8.encode (h.drop 1) ++ suffix)
          (if suffix.isEmpty then .tag [] [exclamation] else .tag ['!'] suffix, c)
  match read with
  | some (token, c) =>
    if atBlank c.rest || (flow && c.rest.head? = some ',') then some (token, c) else none
  | none => none

/-! ## Directives -/

/-- A number of at most nine digits. -/
def versionNumber? (c : Cursor) : Option (Nat × Cursor) :=
  let digits := c.rest.takeWhile Char.isDigit
  if digits.isEmpty || 9 < digits.length then none
  else some (Number.digitsValue digits, c.skip digits.length)

/-- The directive of a line, read from its percent sign, and the place at the next line. -/
def directive? (c : Cursor) : Option (Token × Cursor) :=
  let c := c.skip 1
  let name := c.rest.takeWhile isNameChar
  let c := c.skip name.length
  let read : Option (Token × Cursor) :=
    if !atBlank c.rest then none
    else if name = "YAML".toList then do
      let (major, c) ← versionNumber? (c.skipWhile isBlank)
      if c.rest.head? ≠ some '.' then none
      else
        let (minor, c) ← versionNumber? (c.skip 1)
        return (.versionDirective major minor, c)
    else if name = "TAG".toList then do
      let c := c.skipWhile isBlank
      if c.rest.head? ≠ some '!' then none
      else
        let (h, c) := handle c
        if !(h = ['!'] || (2 ≤ h.length && h.getLast? = some '!')) then none
        else if !c.rest.head?.any isBlank then none
        else
          let (lead, c) ← tagTextAt? true (c.skipWhile isBlank)
          if lead.isEmpty || !atBlank c.rest then none
          else return (.tagDirective h (untilZero lead), c)
    else none
  match read with
  | none => none
  | some (token, c) =>
    let c := (c.skipWhile isBlank).skipComment
    if atLineEnd c.rest then some (token, c.skipBreak) else none

end LayeredFlags.Yaml
