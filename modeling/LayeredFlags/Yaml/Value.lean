import LayeredFlags.Number.Layout
import LayeredFlags.Text.Cut
import LayeredFlags.Yaml.Node

/-!
# YAML values

What the nodes of a tree mean: scalars become null, truth values, numbers or strings by their
text, style and tag, and an alias means the node that it names.  How often aliases are followed
and how deep collections nest is bounded, so a tree that contains itself has no value.
-/

namespace LayeredFlags.Yaml

open Number (Binary64 Decimal natIn? twoTo)

/-- The meaning of a node. -/
inductive Value where
  | null
  | bool (b : Bool)
  | int (i : Int)
  | float (x : Binary64)
  | string (s : String)
  | sequence (items : List Value)
  | mapping (entries : List (Value × Value))
  | tagged (tag : String) (value : Value)
  deriving Repr

/-! ## Plain scalars -/

/-- The text means null. -/
def isNullWord (s : List Char) : Bool :=
  ["null", "Null", "NULL", "~"].any (·.toList == s)

/-- The truth value that a text means. -/
def boolWord? (s : List Char) : Option Bool :=
  if ["true", "True", "TRUE"].any (·.toList == s) then some true
  else if ["false", "False", "FALSE"].any (·.toList == s) then some false
  else none

/-- Digits with a zero before them, which are a text and no number. -/
def hasLeadingZero (s : List Char) : Bool :=
  match (Number.takeSign s).2 with
  | '0' :: rest => !rest.isEmpty && rest.all Char.isDigit
  | _ => false

/-- The digits of a number in the base that its beginning names. -/
def basedNat? : List Char → Option Nat
  | '0' :: 'x' :: rest => natIn? 16 rest
  | '0' :: 'o' :: rest => natIn? 8 rest
  | '0' :: 'b' :: rest => natIn? 2 rest
  | s => if hasLeadingZero s then none else natIn? 10 s

/-- The integer that a text writes. -/
def int? : List Char → Option Int
  | '-' :: rest => (basedNat? rest).map fun n => -(n : Int)
  | '+' :: rest => (basedNat? rest).map Int.ofNat
  | s => (basedNat? s).map Int.ofNat

/-- An integer is signed with 64 bits or unsigned with 64 bits. -/
def isShort (i : Int) : Bool :=
  -(twoTo 63 : Int) ≤ i && i < twoTo 64

/-- An integer is signed with 128 bits or unsigned with 128 bits. -/
def isLong (i : Int) : Bool :=
  -(twoTo 127 : Int) ≤ i && i < twoTo 128

/-- The floating-point number that a text writes.  Decimals past the finite numbers are none. -/
def float? (s : List Char) : Option Binary64 :=
  let unsigned := match s with
    | '+' :: rest => rest
    | s => s
  if s.head? = some '+' && (unsigned.head? = some '+' || unsigned.head? = some '-') then none
  else if [".inf", ".Inf", ".INF"].any (·.toList == unsigned) then some (.infinite false)
  else if ["-.inf", "-.Inf", "-.INF"].any (·.toList == s) then some (.infinite true)
  else if [".nan", ".NaN", ".NAN"].any (·.toList == s) then some .nan
  else ((Decimal.read? unsigned).map Binary64.ofDecimal).filter Binary64.isFinite

/-- The integer that a text means.  One that fits 128 bits but not 64 is a number without a value,
the inner `none`; greater ones are no integers. -/
def intMeaning? (s : List Char) : Option (Option Value) :=
  match int? s with
  | some i => if isShort i then some (some (.int i)) else if isLong i then some none else none
  | none => none

/-- The meaning of a plain scalar. -/
def plainValue? (s : List Char) : Option Value :=
  if s.isEmpty || isNullWord s then some .null
  else match boolWord? s with
    | some b => some (.bool b)
    | none =>
      match intMeaning? s with
      | some v => v
      | none =>
        match if hasLeadingZero s then none else float? s with
        | some x => some (.float x)
        | none => some (.string (String.ofList s))

/-! ## Tags -/

/-- The tag of the standard types with a name. -/
def standardTag (name : String) : List UInt8 :=
  Text.Utf8.encode ("tag:yaml.org,2002:".toList ++ name.toList)

/-- A local tag is one that begins with an exclamation mark. -/
def isLocal (tag : List UInt8) : Bool :=
  tag.head? = some exclamation

/-- A tag without the exclamation mark at its front, unless there is nothing else. -/
def unmarked (tag : List UInt8) : List UInt8 :=
  if isLocal tag && 1 < tag.length then tag.drop 1 else tag

/-- The name of a local tag, if it is a text. -/
def localName? (tag : List UInt8) : Option String :=
  if isLocal tag then Text.Utf8.decode? (unmarked tag) else none

/-- A value under the tag of its node, if that has a local name.  Another exclamation mark before
the name makes no other tag. -/
def Properties.apply (p : Properties) (v : Value) : Value :=
  match (p.tag.filter isLocal).bind fun tag => Text.Utf8.decode? (unmarked (unmarked tag)) with
  | some name => .tagged name v
  | none => v

/-- The meaning of a scalar without a tag. -/
def untaggedValue? (style : Style) (text : List Char) : Option Value :=
  if style = .plain then plainValue? text else some (.string (String.ofList text))

/-- The meaning of a scalar.  The tags of truth values, integers, floating-point numbers and null
force their type; other tags that are not local make a string. -/
def scalarValue? (p : Properties) (style : Style) (text : List Char) : Option Value :=
  match p.tag with
  | none => untaggedValue? style text
  | some tag =>
    if isLocal tag then (untaggedValue? style text).map p.apply
    else if tag = standardTag "bool" then (boolWord? text).map .bool
    else if tag = standardTag "int" then (intMeaning? text).join
    else if tag = standardTag "float" then (float? text).map .float
    else if tag = standardTag "null" then if isNullWord text then some .null else none
    else some (.string (String.ofList text))

/-! ## Equality -/

mutual

/-- Equality of values: nan is equal to itself, the zeros are equal, no integer is equal to a
floating-point number, and the order of a mapping does not matter. -/
def Value.same : Value → Value → Bool
  | .null, .null => true
  | .bool a, .bool b => a == b
  | .int a, .int b => a == b
  | .float x, .float y => x.same y || (x == .nan && y == .nan)
  | .string s, .string t => s == t
  | .sequence xs, .sequence ys => sameItems xs ys
  | .mapping es, .mapping fs => es.length == fs.length && entriesWithin es fs
  | .tagged t v, .tagged u w => t == u && v.same w
  | _, _ => false

/-- Equality of the items of sequences. -/
def sameItems : List Value → List Value → Bool
  | [], [] => true
  | x :: xs, y :: ys => x.same y && sameItems xs ys
  | _, _ => false

/-- Every entry is among the entries of the other mapping. -/
def entriesWithin : List (Value × Value) → List (Value × Value) → Bool
  | [], _ => true
  | (key, value) :: rest, entries =>
    (entries.any fun e => key.same e.1 && value.same e.2) && entriesWithin rest entries

end

/-! ## Resolution -/

/-- The node that a number goes by, and one of the aliases that may still be followed. -/
def follow (target : Nat → Option Node) : Node → StateT Nat Option Node
  | .alias anchor => fun
    | 0 => none
    | jumps + 1 => (target anchor).map (·, jumps)
  | node => pure node

/-- The entries of a mapping with one more, whose key must be new. -/
def addPair? (entries : List (Value × Value)) (key value : Value) :
    Option (List (Value × Value)) :=
  if entries.any fun e => e.1.same key then none else some (entries ++ [(key, value)])

/-- The value of a node, with `depth` more collections to be entered; the state is how many
aliases may still be followed. -/
def resolve (target : Nat → Option Node) : (depth : Nat) → Node → StateT Nat Option Value
  | depth, node => do
    match ← follow target node, depth with
    | .scalar p style text, _ => liftM (scalarValue? p style text)
    | .sequence p items, depth + 1 =>
      return p.apply (.sequence (← items.mapM (resolve target depth)))
    | .mapping p entries, depth + 1 =>
      let resolved ← entries.foldlM (fun known e => do
        let key ← resolve target depth e.1
        let value ← resolve target depth e.2
        liftM (addPair? known key value)) []
      return p.apply (.mapping resolved)
    | _, _ => failure

/-- The deepest nesting of collections. -/
def depthLimit : Nat := 128

/-- A collection begins and ends; all other nodes are one event. -/
def Node.events : Node → Nat
  | .sequence _ _ | .mapping _ _ => 2
  | _ => 1

/-- The number of beginnings, ends, scalars and aliases that nodes are made of. -/
def eventCount (nodes : List Node) : Nat :=
  nodes.foldl (fun n node => n + node.events) 0

/-- The value of a tree.  For each of its events a hundred aliases may be followed. -/
def Node.value? (tree : Node) : Option Value :=
  let nodes := tree.nodes
  ((resolve (lastAnchored? nodes) depthLimit tree).run (100 * eventCount nodes)).map (·.1)

end LayeredFlags.Yaml
