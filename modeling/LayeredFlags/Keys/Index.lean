import LayeredFlags.FlagSet.Chain
import LayeredFlags.Keys.Derived

/-!
# The key index of a chain

The derived keys of every flag of a chain, nearest first, with the check that no key has two
flags, and the way back from a key-like name to its flag.
-/

namespace LayeredFlags

/-- The keys of one flag. -/
structure KeyEntry where
  id : FlagId
  /-- The preferred name of the flag. -/
  flag : String
  keys : List String
  deriving DecidableEq, Repr

/-- The keys of all flags of a chain, under the rules that derived them. -/
structure KeyIndex where
  rules : KeyRules
  entries : List KeyEntry

namespace KeyIndex

/-- The index of a chain. -/
def ofChain (r : KeyRules) (c : Chain) : KeyIndex :=
  { rules := r
    entries := c.located.map fun (id, f) => ⟨id, f.display, r.keys f⟩ }

/-- The entries that hold a key. -/
def owners (x : KeyIndex) (key : String) : List KeyEntry :=
  x.entries.filter (·.keys.contains key)

/-- The clash on a key of an entry, if another entry holds it too. -/
def clashOn? (x : KeyIndex) (entry : KeyEntry) (key : String) : Option FlagError :=
  match x.owners key with
  | _ :: other :: _ => some (.duplicateKey key entry.flag other.flag)
  | _ => none

/-- The first clash of keys: that of the nearest flag with a shared key, on its first such
key. -/
def clash? (x : KeyIndex) : Option FlagError :=
  x.entries.findSome? fun entry => entry.keys.findSome? (x.clashOn? entry)

/-- The keys of the flag at a place. -/
def keysAt (x : KeyIndex) (id : FlagId) : List String :=
  match x.entries.find? (·.id == id) with
  | some entry => entry.keys
  | none => []

/-- The flag that a key-like name belongs to. -/
def reverse (x : KeyIndex) (name : String) : Except FlagError (Option FlagId) :=
  let key := x.rules.fold (keyBody name)
  match x.owners key with
  | [] => .ok none
  | [entry] => .ok (some entry.id)
  | entries => .error (.ambiguousKey key (entries.map KeyEntry.flag))

end KeyIndex

end LayeredFlags
