import LayeredFlags.FlagSet.Chain

/-!
# Forests of flag sets

Flag sets that share ancestors.  Each set may point at a parent; an operation on a set works on
the chain of the set and its ancestors, and what it does to them all other sets that share them
see too.
-/

namespace LayeredFlags

/-- A flag set and the number of its parent. -/
structure SetNode where
  set : FlagSet
  parent : Option Nat := none

/-- Flag sets, numbered in the order in which they were made. -/
structure Forest where
  nodes : List SetNode := []

namespace Forest

/-- The forest with one more set, and the number of that set. -/
def insert (f : Forest) (s : FlagSet) (parent : Option Nat) : Forest × Nat :=
  ({ nodes := f.nodes ++ [⟨s, parent⟩] }, f.nodes.length)

/-- The forest with a set put under another parent. -/
def link (f : Forest) (id : Nat) (parent : Option Nat) : Forest :=
  { nodes := f.nodes.modify id fun n => { n with parent } }

/-- The forest with one set changed. -/
def modifySet (f : Forest) (id : Nat) (g : FlagSet → FlagSet) : Forest :=
  { nodes := f.nodes.modify id fun n => { n with set := g n.set } }

/-- The numbers of a set and its ancestors, nearest first, in at most `steps` steps. -/
def lineageIn (f : Forest) : (steps : Nat) → Nat → List Nat
  | 0, _ => []
  | steps + 1, id =>
    match f.nodes[id]? with
    | none => []
    | some n => id :: (n.parent.map (lineageIn f steps)).getD []

/-- The numbers of a set and its ancestors, nearest first. -/
def lineage (f : Forest) (id : Nat) : List Nat :=
  f.lineageIn f.nodes.length id

/-- The chain of a set. -/
def chain? (f : Forest) (id : Nat) : Option Chain :=
  match (f.lineage id).filterMap fun i => (f.nodes[i]?).map SetNode.set with
  | [] => none
  | own :: ancestors => some ⟨own, ancestors⟩

/-- The forest with the sets of a lineage replaced. -/
def writeBack (f : Forest) : List Nat → List FlagSet → Forest
  | id :: ids, s :: sets => (f.modifySet id fun _ => s).writeBack ids sets
  | _, _ => f

/-- The forest after an operation on the chain of a set. -/
def onChain (f : Forest) (id : Nat) (op : Chain → Attempt Chain) : Attempt Forest :=
  match f.chain? id with
  | none => ⟨f, none⟩
  | some c =>
    let a := op c
    ⟨f.writeBack (f.lineage id) a.state.sets, a.failure⟩

end Forest

end LayeredFlags
