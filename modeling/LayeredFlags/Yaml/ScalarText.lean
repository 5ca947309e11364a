import LayeredFlags.Number.Digits
import LayeredFlags.Yaml.Cursor

/-!
# Scalars in a YAML text

The readers of quoted, plain and block scalars.  Each begins behind the indicator of its style
and gives the text that the scalar stands for and the place behind it.
-/

namespace LayeredFlags.Yaml

/-! ## Quoted scalars -/

/-- The character that an escape of one letter stands for. -/
def escapeLetter? : Char → Option Char
  | '0' => some '\x00'
  | 'a' => some '\x07'
  | 'b' => some '\x08'
  | 't' => some '\t'
  | '\t' => some '\t'
  | 'n' => some '\n'
  | 'v' => some '\x0B'
  | 'f' => some '\x0C'
  | 'r' => some '\r'
  | 'e' => some '\x1B'
  | ' ' => some ' '
  | '"' => some '"'
  | '/' => some '/'
  | '\\' => some '\\'
  | 'N' => some '\x85'
  | '_' => some '\xA0'
  | 'L' => some '\u2028'
  | 'P' => some '\u2029'
  | _ => none

/-- The number of digits behind an escape letter. -/
def escapeDigits? : Char → Option Nat
  | 'x' => some 2
  | 'u' => some 4
  | 'U' => some 8
  | _ => none

/-- The character of an escape, read from behind its backslash, and the length of the escape. -/
def escape? : List Char → Option (Char × Nat)
  | [] => none
  | e :: rest =>
    match escapeDigits? e with
    | none => (escapeLetter? e).map (·, 1)
    | some count =>
      let digits := rest.take count
      if digits.length = count then
        match Number.natIn? 16 digits with
        | some n => if n.isValidChar then some (Char.ofNat n, count + 1) else none
        | none => none
      else none

/-- What stands behind a word of a quoted scalar. -/
inductive WordEnd where
  | blank
  | quote
  /-- A backslash before a line end. -/
  | escapedBreak
  deriving DecidableEq, Repr

/-- The characters up to the next blank, line end or closing quote, in at most `steps` steps. -/
def quotedWord? (single : Bool) : (steps : Nat) → Cursor → Option (List Char × WordEnd × Cursor)
  | 0, _ => none
  | steps + 1, c =>
    match c.rest with
    | [] => some ([], .blank, c)
    | x :: rest =>
      if isBlank x || isBreak x then some ([], .blank, c)
      else if single && x == '\'' then
        if rest.head? = some '\'' then
          (quotedWord? single steps (c.skip 2)).map fun (s, r) => ('\'' :: s, r)
        else some ([], .quote, c)
      else if !single && x == '"' then some ([], .quote, c)
      else if !single && x == '\\' then
        if !rest.isEmpty && atLineEnd rest then some ([], .escapedBreak, (c.skip 1).skipBreak)
        else match escape? rest with
          | none => none
          | some (e, n) =>
            (quotedWord? single steps (c.skip (n + 1))).map fun (s, r) => (e :: s, r)
      else (quotedWord? single steps (c.skip 1)).map fun (s, r) => (x :: s, r)

/-- A quoted scalar behind its opening quote, in at most `steps` words. -/
def quotedFrom? (single : Bool) : (steps : Nat) → Cursor → Option (List Char × Cursor)
  | 0, _ => none
  | steps + 1, c =>
    if c.atDocumentMark || c.rest.isEmpty then none
    else match quotedWord? single (c.rest.length + 1) c with
      | none => none
      | some (word, .quote, c) => some (word, c.skip 1)
      | some (word, .blank, c) =>
        let (gap, c) := readGap false c
        (quotedFrom? single steps c).map fun (s, c) => (word ++ gap.folded ++ s, c)
      | some (word, .escapedBreak, c) =>
        let (gap, c) := readGap true c
        (quotedFrom? single steps c).map fun (s, c) => (word ++ gap.breaks ++ s, c)

/-- A quoted scalar behind its opening quote. -/
def quoted? (single : Bool) (c : Cursor) : Option (List Char × Cursor) :=
  quotedFrom? single (c.rest.length + 1) c

/-! ## Plain scalars -/

/-- An indicator of flow collections. -/
def isFlowIndicator (c : Char) : Bool :=
  c == ',' || c == '[' || c == ']' || c == '\x7b' || c == '\x7d'

/-- The characters of a plain scalar up to the next blank or its end.  In a flow collection a
colon right before an indicator is refused. -/
def plainWord? (flow : Bool) : List Char → Option (List Char)
  | [] => some []
  | x :: rest =>
    if isBlank x || isBreak x then some []
    else if flow && x == ':' && rest.head?.any (fun y => isFlowIndicator y || y == '?') then none
    else if x == ':' && atBlank rest then some []
    else if flow && isFlowIndicator x then some []
    else (plainWord? flow rest).map (x :: ·)

/-- A plain scalar that must be indented by `indent`, in at most `steps` words; `pending` is the
gap before the next word.  Also gives whether a line end stands behind the last word. -/
def plainFrom? (flow : Bool) (indent : Int) : (steps : Nat) → (pending : Gap) → Cursor →
    Option (List Char × Bool × Cursor)
  | 0, _, _ => none
  | steps + 1, pending, c =>
    let broken := !pending.breaks.isEmpty
    if c.atDocumentMark || c.rest.head? = some '#' then some ([], broken, c)
    else match plainWord? flow c.rest with
      | none => none
      | some word =>
        let c := c.skip word.length
        let text := if word.isEmpty then [] else pending.folded ++ word
        let broken := word.isEmpty && broken
        if c.rest.isEmpty || !atBlank c.rest then some (text, broken, c)
        else
          let (gap, c) := readGap false c
          if gap.tab.any fun t => (t : Int) < indent then none
          else if !flow && !gap.breaks.isEmpty && (c.column : Int) < indent then
            some (text, true, c)
          else (plainFrom? flow indent steps gap c).map fun (s, r) => (text ++ s, r)

/-- A plain scalar, and whether a line end stands behind its last word. -/
def plain? (flow : Bool) (indent : Int) (c : Cursor) : Option (List Char × Bool × Cursor) :=
  plainFrom? flow indent (c.rest.length + 1) {} c

/-! ## Block scalars -/

/-- What becomes of the line ends at the end of a block scalar. -/
inductive Chomping where
  | strip
  | clip
  | keep
  deriving DecidableEq, Repr

/-- The chomping that an indicator asks for. -/
def chomping? : Char → Option Chomping
  | '+' => some .keep
  | '-' => some .strip
  | _ => none

/-- The header of a block scalar: chomping and indentation in either order. -/
def blockHeader? (c : Cursor) : Option (Chomping × Option Nat × Cursor) :=
  let increment? (c : Cursor) : Option (Option Nat × Cursor) :=
    match c.rest with
    | x :: _ =>
      if x.isDigit then
        if x == '0' then none else some (some (Number.digitValue x), c.skip 1)
      else some (none, c)
    | [] => some (none, c)
  match c.rest.head?.bind chomping? with
  | some chomping => (increment? (c.skip 1)).map fun (n, c) => (chomping, n, c)
  | none =>
    match increment? c with
    | none => none
    | some (n, c) =>
      match if n.isSome then c.rest.head?.bind chomping? else none with
      | some chomping => some (chomping, n, c.skip 1)
      | none => some (.clip, n, c)

/-- The line ends before the next line of a block scalar, in at most `steps` lines, with the
greatest column that indentation reached.  Indentation counts up to `indent`, or all of it while
that is not known. -/
def blockBreaks? (indent : Option Nat) : (steps : Nat) → (widest : Nat) → Cursor →
    Option (List Char × Nat × Cursor)
  | 0, _, _ => none
  | steps + 1, widest, c =>
    let spaces := (c.rest.takeWhile (· == ' ')).length
    let c := c.skip (match indent with
      | some n => min spaces (n - c.column)
      | none => spaces)
    let widest := max widest c.column
    let short := indent.all (c.column < ·)
    if short && c.rest.head? = some '\t' then none
    else match c.break? with
      | none => some ([], widest, c)
      | some (b, c) =>
        (blockBreaks? indent steps widest c).map fun (breaks, r) => (b :: breaks, r)

/-- The lines of a block scalar, in at most `steps` lines.  `lead` is the line end behind the line
before, `breaks` are the empty lines since then, and `wasBlank` tells whether the line before
began with a blank. -/
def blockLines? (folded : Bool) (chomping : Chomping) (indent : Nat) : (steps : Nat) →
    (lead breaks : List Char) → (wasBlank : Bool) → Cursor → Option (List Char × Cursor)
  | 0, _, _, _, _ => none
  | steps + 1, lead, breaks, wasBlank, c =>
    if c.column = indent && !c.rest.isEmpty then
      let blank := c.rest.head?.any isBlank
      let joined :=
        if folded && lead == ['\n'] && !wasBlank && !blank then
          if breaks.isEmpty then [' '] else breaks
        else lead ++ breaks
      let line := c.rest.takeWhile (!isBreak ·)
      let c := c.skip line.length
      let (lead, c) := match c.break? with
        | some (b, c) => ([b], c)
        | none => ([], c)
      match blockBreaks? (some indent) (c.rest.length + 1) 0 c with
      | none => none
      | some (breaks, _, c) =>
        (blockLines? folded chomping indent steps lead breaks blank c).map fun (s, c) =>
          (joined ++ line ++ s, c)
    else
      some (match chomping with
        | .strip => []
        | .clip => lead
        | .keep => lead ++ breaks, c)

/-- A block scalar behind its indicator, in a block that is indented by `parent`. -/
def block? (folded : Bool) (parent : Int) (c : Cursor) : Option (List Char × Cursor) :=
  match blockHeader? c with
  | none => none
  | some (chomping, increment, c) =>
    let c := (c.skipWhile isBlank).skipComment
    if !atLineEnd c.rest then none
    else
      let c := c.skipBreak
      let known := increment.map fun n => (max parent 0).toNat + n
      match blockBreaks? known (c.rest.length + 1) 0 c with
      | none => none
      | some (breaks, widest, c) =>
        let indent := known.getD (max widest (max (parent + 1) 1).toNat)
        blockLines? folded chomping indent (c.rest.length + 1) [] breaks false c

end LayeredFlags.Yaml
