/-!
# Powers

The powers of two and of ten, which the bounds of integer types and the scales of numbers are.
-/

namespace LayeredFlags.Number

/-- A power of two. -/
def twoTo (n : Nat) : Nat :=
  Nat.pow 2 n

/-- A power of ten. -/
def tenTo (n : Nat) : Nat :=
  Nat.pow 10 n

end LayeredFlags.Number
