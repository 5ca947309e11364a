import LayeredFlags.Number.Binary64

/-!
# Shortest decimal digits

The fewest digits that read back as a given floating-point number, and of those the nearest to
it.  The reals that round to `m * 2 ^ e` form an interval around it that holds its ends exactly
when `m` is even; for one, two, … seventeen digits the two neighbours of the number on that
decimal grid are tried, and the first grid with a neighbour in the interval gives the digits.
-/

namespace LayeredFlags.Number

/-- The number `0.d₁d₂… * 10 ^ point`, its digits without trailing zeros. -/
structure Digits where
  digits : List Char
  point : Int
  deriving DecidableEq, Repr

/-- Which of two equally near candidates is taken. -/
inductive TieRule where
  /-- The one with the greater magnitude. -/
  | away
  /-- The one whose last digit is even. -/
  | even
  deriving DecidableEq, Repr

/-- A positive number with the reals that round to it, all over one denominator. -/
structure RoundingInterval where
  low : Nat
  value : Nat
  high : Nat
  denominator : Nat
  closed : Bool

namespace RoundingInterval

/-- The interval of the finite number `m * 2 ^ e`, where `m` is not zero. -/
def ofParts (m : Nat) (e : Int) : RoundingInterval :=
  let below := if m = twoTo 52 && Binary64.leastExponent < e then 1 else 2
  let up := if e - 2 < 0 then 1 else twoTo (e - 2).toNat
  let down := if e - 2 < 0 then twoTo (2 - e).toNat else 1
  { low := (4 * m - below) * up, value := 4 * m * up, high := (4 * m + 2) * up,
    denominator := down, closed := m % 2 == 0 }

/-- The decimal `d * 10 ^ p` lies in the interval. -/
def contains (r : RoundingInterval) (d : Nat) (p : Int) : Bool :=
  let x := if p < 0 then d * r.denominator else d * tenTo p.toNat * r.denominator
  let scale := if p < 0 then tenTo (-p).toNat else 1
  if r.closed then r.low * scale ≤ x && x ≤ r.high * scale
  else r.low * scale < x && x < r.high * scale

/-- The value in units of `10 ^ p`: its whole part, and twice its fraction against one. -/
def onGrid (r : RoundingInterval) (p : Int) : Nat × Ordering :=
  let a := if p < 0 then r.value * tenTo (-p).toNat else r.value
  let b := if p < 0 then r.denominator else r.denominator * tenTo p.toNat
  (a / b, compare (2 * (a % b)) b)

/-- The neighbour of the value on the grid of `10 ^ p` that lies in the interval. -/
def neighbour? (tie : TieRule) (r : RoundingInterval) (p : Int) : Option Nat :=
  let (d, half) := r.onGrid p
  match d != 0 && r.contains d p, r.contains (d + 1) p with
  | false, false => none
  | true, false => some d
  | false, true => some (d + 1)
  | true, true =>
    match half, tie with
    | .lt, _ => some d
    | .gt, _ => some (d + 1)
    | .eq, .away => some (d + 1)
    | .eq, .even => some (if d % 2 = 0 then d else d + 1)

/-- The least `k` from `start` on with the value below `10 ^ k`, looked for in `steps` steps. -/
def magnitude (r : RoundingInterval) : (steps : Nat) → (start : Int) → Int
  | 0, k => k
  | steps + 1, k => if (r.onGrid k).1 = 0 then k else magnitude r steps (k + 1)

/-- The digits on the first grid with a neighbour, from `places` digits on. -/
def search (tie : TieRule) (r : RoundingInterval) (k : Int) : (grids places : Nat) → Nat × Int
  | 0, places => ((r.onGrid (k - places)).1, k - places)
  | grids + 1, places =>
    match r.neighbour? tie (k - places) with
    | some d => (d, k - places)
    | none => search tie r k grids (places + 1)

end RoundingInterval

/-- The shortest digits of the finite number `m * 2 ^ e`, where `m` is not zero. -/
def shortestDigits (tie : TieRule) (m : Nat) (e : Int) : Digits :=
  let r := RoundingInterval.ofParts m e
  let start := ((m.log2 : Int) + e) * 30103 / 100000 - 1
  let k := r.magnitude 5 start
  let (d, p) := r.search tie k 17 1
  let text := natText d
  { digits := (text.reverse.dropWhile (· == '0')).reverse, point := p + text.length }

end LayeredFlags.Number
