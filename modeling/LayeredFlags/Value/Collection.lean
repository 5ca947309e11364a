/-!
# Collections

A list that is filled from strings, one element at a time.  Its defaults stand in until the first
element is set, and a reset brings them back.
-/

namespace LayeredFlags

/-- Elements collected since the last reset (none before the first assignment), with defaults
that stand in until then; in unique mode a repeated element is dropped. -/
structure Collection (α : Type) where
  unique : Bool
  defaults : List α
  collected : Option (List α) := none

namespace Collection

variable {α ε : Type}

/-- The elements that the collection reports. -/
def values (c : Collection α) : List α :=
  c.collected.getD c.defaults

/-- The collection after one more element; `same` tells whether two elements are equal. -/
def push (same : α → α → Bool) (c : Collection α) (x : α) : Collection α :=
  let items := c.collected.getD []
  { c with collected := some (if c.unique && items.any (same · x) then items else items ++ [x]) }

/-- The collection after a string is set; a string that cannot be read is refused. -/
def assign (read : String → Except ε α) (same : α → α → Bool) (raw : String)
    (c : Collection α) : Except ε (Collection α) :=
  (read raw).map (c.push same)

/-- The collection as it was made. -/
def restored (c : Collection α) : Collection α :=
  { c with collected := none }

end Collection

end LayeredFlags
