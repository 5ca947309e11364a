import LayeredFlags.Number.Digits
import LayeredFlags.Number.Power

/-!
# TOML dates and times

A date, a time of day, or both with an optional offset: reading them, and their rendering with
`T` between date and time and with the shortest fraction of a second.
-/

namespace LayeredFlags.Toml

/-- A day of the calendar. -/
structure Date where
  year : Nat
  month : Nat
  day : Nat
  deriving DecidableEq, Repr

/-- A time of day. -/
structure Time where
  hour : Nat
  minute : Nat
  second : Nat
  nanosecond : Nat
  deriving DecidableEq, Repr

/-- The distance from universal time. -/
inductive Offset where
  | zulu
  | minutes (east : Int)
  deriving DecidableEq, Repr

/-- A date, a time, or both. -/
structure Datetime where
  date : Option Date
  time : Option Time
  offset : Option Offset
  deriving DecidableEq, Repr

/-! ## Rendering -/

/-- A number in at least `width` digits. -/
def padded (width n : Nat) : List Char :=
  let digits := Number.natText n
  List.replicate (width - digits.length) '0' ++ digits

/-- The text of a date. -/
def Date.text (d : Date) : List Char :=
  padded 4 d.year ++ '-' :: padded 2 d.month ++ '-' :: padded 2 d.day

/-- The text of a time. -/
def Time.text (t : Time) : List Char :=
  let fraction := ((padded 9 t.nanosecond).reverse.dropWhile (· == '0')).reverse
  padded 2 t.hour ++ ':' :: padded 2 t.minute ++ ':' :: padded 2 t.second ++
    (if fraction.isEmpty then [] else '.' :: fraction)

/-- The text of an offset. -/
def Offset.text : Offset → List Char
  | .zulu => ['Z']
  | .minutes east =>
    (if east < 0 then '-' else '+') ::
      (padded 2 (east.natAbs / 60) ++ ':' :: padded 2 (east.natAbs % 60))

/-- The text of a date and time. -/
def Datetime.text (t : Datetime) : List Char :=
  let date := (t.date.map Date.text).getD []
  let time := (t.time.map Time.text).getD []
  let mark := if t.date.isSome && t.time.isSome then ['T'] else []
  date ++ mark ++ time ++ (t.offset.map Offset.text).getD []

/-! ## Reading -/

/-- The number of exactly `count` digits within bounds, and the rest. -/
def fixedDigits? (count low high : Nat) (s : List Char) : Option (Nat × List Char) :=
  let digits := s.take count
  if digits.length = count && digits.all Char.isDigit then
    let n := Number.digitsValue digits
    if low ≤ n && n ≤ high then some (n, s.drop count) else none
  else none

/-- The rest of a text behind one character. -/
def mark? (c : Char) : List Char → Option (List Char)
  | a :: rest => if a = c then some rest else none
  | [] => none

/-- The number of days of a month. -/
def daysIn (year month : Nat) : Nat :=
  if month = 2 then
    if year % 4 = 0 && (year % 100 ≠ 0 || year % 400 = 0) then 29 else 28
  else if month = 4 || month = 6 || month = 9 || month = 11 then 30
  else 31

/-- A date. -/
def date? (s : List Char) : Option (Date × List Char) := do
  let (year, s) ← fixedDigits? 4 0 9999 s
  let s ← mark? '-' s
  let (month, s) ← fixedDigits? 2 1 12 s
  let s ← mark? '-' s
  let (day, s) ← fixedDigits? 2 1 (daysIn year month) s
  return (⟨year, month, day⟩, s)

/-- The fraction of a second in nanoseconds; digits past the ninth are dropped. -/
def fraction? (s : List Char) : Option (Nat × List Char) :=
  match s with
  | '.' :: rest =>
    let (digits, rest) := Number.spanDigits rest
    if digits.isEmpty then none
    else
      let kept := digits.take 9
      some (Number.digitsValue kept * Number.tenTo (9 - kept.length), rest)
  | _ => some (0, s)

/-- A time of day. -/
def time? (s : List Char) : Option (Time × List Char) := do
  let (hour, s) ← fixedDigits? 2 0 23 s
  let s ← mark? ':' s
  let (minute, s) ← fixedDigits? 2 0 59 s
  let s ← mark? ':' s
  let (second, s) ← fixedDigits? 2 0 60 s
  let (nanosecond, s) ← fraction? s
  return (⟨hour, minute, second, nanosecond⟩, s)

/-- An offset, if there is one. -/
def offset? (s : List Char) : Option (Option Offset × List Char) :=
  match s with
  | [] => some (none, [])
  | c :: rest =>
    if c == 'Z' || c == 'z' then some (some .zulu, rest)
    else if c == '+' || c == '-' then do
      let (hour, rest) ← fixedDigits? 2 0 23 rest
      let rest ← mark? ':' rest
      let (minute, rest) ← fixedDigits? 2 0 59 rest
      let east : Int := hour * 60 + minute
      return (some (.minutes (if c == '-' then -east else east)), rest)
    else some (none, s)

/-- The text begins with digits up to a mark. -/
def beginsDigits (count : Nat) (c : Char) (s : List Char) : Bool :=
  (s.take count).length == count && (s.take count).all Char.isDigit &&
    (s.drop count).head? == some c

/-- The text goes on with a time behind a date.  A blank divides them only if what follows it
begins like a time. -/
def timeFollows (s : List Char) : Bool :=
  match s with
  | c :: rest =>
    c == 'T' || c == 't' || (c == ' ' && beginsDigits 2 ':' rest)
  | [] => false

/-- A date, a time, or both. -/
def datetime? (s : List Char) : Option (Datetime × List Char) :=
  if beginsDigits 4 '-' s then do
    let (date, s) ← date? s
    if timeFollows s then
      let (time, s) ← time? (s.drop 1)
      let (offset, s) ← offset? s
      return (⟨some date, some time, offset⟩, s)
    else return (⟨some date, none, none⟩, s)
  else do
    let (time, s) ← time? s
    return (⟨none, some time, none⟩, s)

end LayeredFlags.Toml
