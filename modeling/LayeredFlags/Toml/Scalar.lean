import LayeredFlags.Number.Layout

/-!
# TOML strings and numbers

The readers of scalar values.  Each takes what it reads from the front of a text and gives the
rest.
-/

namespace LayeredFlags.Toml

/-- A blank within a line. -/
def isBlank (c : Char) : Bool :=
  c == ' ' || c == '\t'

/-- A character that may stand in a comment or a string: a tab, or no control character. -/
def isText (c : Char) : Bool :=
  c == '\t' || (0x20 ≤ c.toNat && c.toNat ≠ 0x7F)

/-! ## Strings -/

/-- The character with a code given by exactly `count` hexadecimal digits. -/
def hexChar? (count : Nat) (s : List Char) : Option Char :=
  if (s.take count).length = count then
    match Number.natIn? 16 (s.take count) with
    | some n => if n.isValidChar then some (Char.ofNat n) else none
    | none => none
  else none

/-- The character that an escape stands for, read from behind its backslash, and the number of
characters that make up the escape. -/
def escape? : List Char → Option (Char × Nat)
  | 'b' :: _ => some ('\x08', 1)
  | 't' :: _ => some ('\t', 1)
  | 'n' :: _ => some ('\n', 1)
  | 'f' :: _ => some ('\x0C', 1)
  | 'r' :: _ => some ('\r', 1)
  | '"' :: _ => some ('"', 1)
  | '\\' :: _ => some ('\\', 1)
  | 'u' :: rest => (hexChar? 4 rest).map (·, 5)
  | 'U' :: rest => (hexChar? 8 rest).map (·, 9)
  | _ => none

/-- A basic string, read from behind its quote. -/
def basicString? : List Char → Option (List Char × List Char)
  | [] => none
  | c :: rest =>
    if c = '"' then some ([], rest)
    else if c = '\\' then
      match escape? rest with
      | none => none
      | some (x, n) => (basicString? (rest.drop n)).map fun (s, rest) => (x :: s, rest)
    else if isText c then (basicString? rest).map fun (s, rest) => (c :: s, rest)
    else none
termination_by s => s.length
decreasing_by all_goals simp; try omega

/-- A literal string, read from behind its quote. -/
def literalString? : List Char → Option (List Char × List Char)
  | [] => none
  | c :: rest =>
    if c = '\'' then some ([], rest)
    else if isText c then (literalString? rest).map fun (s, rest) => (c :: s, rest)
    else none

/-- Nothing but blanks stands before the end of the line. -/
def endsLine : List Char → Bool
  | '\n' :: _ => true
  | '\r' :: '\n' :: _ => true
  | c :: rest => isBlank c && endsLine rest
  | [] => false

/-- A multi-line string, read from behind its three quotes.  `run` counts the quotes just passed:
three end the string, and up to two more belong to it.  While `skipping`, blanks and line ends
are left out, as they are behind a backslash at the end of a line. -/
def multilineBody? (mark : Char) (escapes : Bool) (run : Nat) (skipping : Bool) :
    List Char → Option (List Char × List Char)
  | [] =>
    if 3 ≤ run && run ≤ 5 then some (List.replicate (run - 3) mark, []) else none
  | c :: rest =>
    if c = mark then multilineBody? mark escapes (run + 1) false rest
    else if 3 ≤ run then
      if run ≤ 5 then some (List.replicate (run - 3) mark, c :: rest) else none
    else
      let more :=
        if c = '\n' then
          (multilineBody? mark escapes 0 skipping rest).map fun (s, rest) =>
            (if skipping then s else '\n' :: s, rest)
        else if c = '\r' then
          if rest.head? = some '\n' then multilineBody? mark escapes 0 skipping rest else none
        else if skipping && isBlank c then multilineBody? mark escapes 0 true rest
        else if escapes && c = '\\' then
          if endsLine rest then multilineBody? mark escapes 0 true rest
          else match escape? rest with
            | none => none
            | some (x, n) =>
              (multilineBody? mark escapes 0 false (rest.drop n)).map fun (s, rest) =>
                (x :: s, rest)
        else if isText c then
          (multilineBody? mark escapes 0 false rest).map fun (s, rest) => (c :: s, rest)
        else none
      more.map fun (s, rest) => (List.replicate run mark ++ s, rest)
termination_by s => s.length
decreasing_by all_goals simp; try omega

/-- The text without the line end at its front. -/
def dropLineEnd : List Char → List Char
  | '\n' :: rest => rest
  | '\r' :: '\n' :: rest => rest
  | s => s

/-- A string of any kind. -/
def string? : List Char → Option (List Char × List Char)
  | '"' :: '"' :: '"' :: rest => multilineBody? '"' true 0 false (dropLineEnd rest)
  | '\'' :: '\'' :: '\'' :: rest => multilineBody? '\'' false 0 false (dropLineEnd rest)
  | '"' :: rest => basicString? rest
  | '\'' :: rest => literalString? rest
  | _ => none

/-! ## Numbers -/

/-- More digits of a number, which single underscores may divide. -/
def moreDigits? (isDigit : Char → Bool) : List Char → Option (List Char × List Char)
  | '_' :: c :: rest =>
    if isDigit c then (moreDigits? isDigit rest).map fun (s, rest) => (c :: s, rest) else none
  | ['_'] => none
  | c :: rest =>
    if isDigit c then (moreDigits? isDigit rest).map fun (s, rest) => (c :: s, rest)
    else some ([], c :: rest)
  | [] => some ([], [])

/-- At least one digit, and more that single underscores may divide. -/
def digits? (isDigit : Char → Bool) : List Char → Option (List Char × List Char)
  | c :: rest =>
    if isDigit c then (moreDigits? isDigit rest).map fun (s, rest) => (c :: s, rest) else none
  | [] => none

/-- The whole part of a decimal number: a zero alone, or digits that do not begin with one. -/
def whole? : List Char → Option (List Char × List Char)
  | '0' :: rest => some (['0'], rest)
  | s => digits? Char.isDigit s

/-- A number. -/
inductive Number where
  | int (i : Int)
  | float (x : LayeredFlags.Number.Binary64)
  deriving DecidableEq, Repr

/-- The text of a number. -/
def Number.text : Number → String
  | .int i => String.ofList (LayeredFlags.Number.intText i)
  | .float x => x.text .plain

/-- An integer of 64 bits. -/
def int64? (i : Int) : Option Number :=
  if -(Number.twoTo 63 : Int) ≤ i && i < Number.twoTo 63 then some (.int i) else none

/-- An integer in another base, read from behind its mark. -/
def based? (base : Nat) (s : List Char) : Option (Number × List Char) :=
  match digits? (fun c => (LayeredFlags.Number.digitIn? base c).isSome) s with
  | none => none
  | some (digits, rest) =>
    match LayeredFlags.Number.natIn? base digits with
    | none => none
    | some n => (int64? n).map (·, rest)

/-- The fraction of a number, if there is one. -/
def fractionDigits? : List Char → Option (Option (List Char) × List Char)
  | '.' :: rest => (digits? Char.isDigit rest).map fun (s, rest) => (some s, rest)
  | s => some (none, s)

/-- The exponent of a number, if there is one. -/
def exponent? : List Char → Option (Option Int × List Char)
  | c :: rest =>
    if c == 'e' || c == 'E' then
      let (negative, rest) := LayeredFlags.Number.takeSign rest
      (digits? Char.isDigit rest).map fun (s, rest) =>
        let e : Int := LayeredFlags.Number.digitsValue s
        (some (if negative then -e else e), rest)
    else some (none, c :: rest)
  | [] => some (none, [])

/-- A decimal number behind its sign.  A positive one past every finite number is refused. -/
def decimal? (negative : Bool) (s : List Char) : Option (Number × List Char) := do
  let (whole, s) ← whole? s
  let (fraction, s) ← fractionDigits? s
  let (exponent, s) ← exponent? s
  if fraction.isNone && exponent.isNone then
    let n : Int := LayeredFlags.Number.digitsValue whole
    let n ← int64? (if negative then -n else n)
    return (n, s)
  else
    let fraction := fraction.getD []
    let x := LayeredFlags.Number.Binary64.ofDecimal
      ⟨negative, LayeredFlags.Number.digitsValue (whole ++ fraction),
        exponent.getD 0 - fraction.length⟩
    if x = .infinite false then none else return (.float x, s)

/-- A number of any kind. -/
def number? (s : List Char) : Option (Number × List Char) :=
  match s with
  | '0' :: 'x' :: rest => based? 16 rest
  | '0' :: 'o' :: rest => based? 8 rest
  | '0' :: 'b' :: rest => based? 2 rest
  | _ =>
    let (negative, rest) := LayeredFlags.Number.takeSign s
    match rest with
    | 'i' :: 'n' :: 'f' :: rest => some (.float (.infinite negative), rest)
    | 'n' :: 'a' :: 'n' :: rest => some (.float .nan, rest)
    | _ => decimal? negative rest

end LayeredFlags.Toml
