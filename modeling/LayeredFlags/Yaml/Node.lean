import LayeredFlags.Yaml.Property

/-!
# YAML nodes

The tree that the tokens of a text describe: scalars, sequences, mappings and aliases with their
properties.  A text holds at most one document; a missing node is an empty plain scalar.
-/

namespace LayeredFlags.Yaml

/-- What may stand before the content of a node. -/
structure Properties where
  /-- The number that aliases know the node by. -/
  anchor : Option Nat := none
  tag : Option (List UInt8) := none
  deriving DecidableEq, Repr

/-- A node has neither an anchor nor a tag. -/
def Properties.isEmpty (p : Properties) : Bool :=
  p.anchor.isNone && p.tag.isNone

/-- A node of the tree. -/
inductive Node where
  | scalar (properties : Properties) (style : Style) (text : List Char)
  | sequence (properties : Properties) (items : List Node)
  | mapping (properties : Properties) (entries : List (Node × Node))
  | alias (anchor : Nat)
  deriving Repr

/-- The node that stands for a missing one. -/
def Node.empty : Node :=
  .scalar {} .plain []

/-! ## The nodes of a tree -/

mutual

/-- A node and all nodes below it, in the order of the text. -/
def Node.nodes : Node → List Node
  | .scalar p style text => [.scalar p style text]
  | .alias anchor => [.alias anchor]
  | .sequence p items => .sequence p items :: itemNodes items
  | .mapping p entries => .mapping p entries :: entryNodes entries

/-- All nodes of the items of a sequence. -/
def itemNodes : List Node → List Node
  | [] => []
  | item :: rest => item.nodes ++ itemNodes rest

/-- All nodes of the entries of a mapping. -/
def entryNodes : List (Node × Node) → List Node
  | [] => []
  | (key, value) :: rest => key.nodes ++ value.nodes ++ entryNodes rest

end

/-- The number that aliases know a node by. -/
def Node.anchor? : Node → Option Nat
  | .scalar p _ _ => p.anchor
  | .sequence p _ => p.anchor
  | .mapping p _ => p.anchor
  | .alias _ => none

/-- The last node of a list that goes by a number. -/
def lastAnchored? (nodes : List Node) (anchor : Nat) : Option Node :=
  nodes.reverse.find? (·.anchor? == some anchor)

/-! ## Reading nodes -/

/-- The handles of tags and what they stand for. -/
abbrev Handles := List (List Char × List UInt8)

/-- What is left to read, and the names of the anchors so far with their numbers. -/
structure Reading where
  tokens : List Token
  names : List (List Char × Nat) := []

namespace Reading

/-- The number of different names so far is the number of the next anchor, also where it takes
over a name. -/
def define (name : List Char) (r : Reading) : Nat × Reading :=
  let id := r.names.length
  (id, { r with names := (name, id) :: r.names.filter fun n => n.1 != name })

/-- The whole tag for a handle and a suffix. -/
def wholeTag? (handles : Handles) (handle : List Char) (suffix : List UInt8) :
    Option (List UInt8) :=
  if handle.isEmpty then some suffix else (handles.lookup handle).map (· ++ suffix)

/-- An anchor and a tag, in either order. -/
def properties? (handles : Handles) (r : Reading) :
    Option (Properties × Reading) :=
  match r.tokens with
  | .anchor name :: .tag handle suffix :: rest | .tag handle suffix :: .anchor name :: rest =>
    let (id, r) := { r with tokens := rest }.define name
    (wholeTag? handles handle suffix).map fun tag => ({ anchor := some id, tag := some tag }, r)
  | .anchor name :: rest =>
    let (id, r) := { r with tokens := rest }.define name
    some ({ anchor := some id }, r)
  | .tag handle suffix :: rest =>
    (wholeTag? handles handle suffix).map fun tag =>
      ({ tag := some tag }, { r with tokens := rest })
  | _ => some ({}, r)

/-- A block sequence goes on or ends here; one that is not indented ends where its mapping goes
on. -/
def atItemEnd (indented : Bool) (r : Reading) : Bool :=
  match r.tokens with
  | .blockEntry :: _ | .blockEnd :: _ => true
  | .key :: _ | .value :: _ => !indented
  | _ => false

/-- The key or the value of a block mapping ends here. -/
def atEntryEnd (r : Reading) : Bool :=
  match r.tokens with
  | .key :: _ | .value :: _ | .blockEnd :: _ => true
  | _ => false

/-- The key of a pair in a flow collection ends here. -/
def atFlowKeyEnd (close : Token) (r : Reading) : Bool :=
  match r.tokens with
  | t :: _ => t == .value || t == .flowEntry || t == close
  | [] => false

/-- The value of a pair in a flow collection ends here. -/
def atFlowValueEnd (close : Token) (r : Reading) : Bool :=
  match r.tokens with
  | t :: _ => t == .flowEntry || t == close
  | [] => false

/-- The place of the next item of a flow collection; all but the first stand behind a comma. -/
def flowItem? (first : Bool) (close : Token) (r : Reading) : Option Reading :=
  match r.tokens with
  | t :: rest =>
    if first || t == close then some r
    else if t == .flowEntry then some { r with tokens := rest }
    else none
  | [] => none

end Reading

/-- The places where a node may stand. -/
inductive Place where
  | block
  /-- The key or the value of a block mapping, where a sequence needs no indentation. -/
  | blockEntry
  | flow
  deriving DecidableEq, Repr

open Reading in
mutual

/-- The node at a place; `steps` bounds how deep the readers call each other. -/
def node? (handles : Handles) :
    (steps : Nat) → Place → Reading → Option (Node × Reading)
  | 0, _, _ => none
  | steps + 1, place, r =>
    match r.tokens with
    | .alias name :: rest =>
      (r.names.lookup name).map fun id => (.alias id, { r with tokens := rest })
    | _ =>
      match properties? handles r with
      | none => none
      | some (p, r) =>
        match r.tokens with
        | .scalar style text :: rest => some (.scalar p style text, { r with tokens := rest })
        | .flowSequenceStart :: rest =>
          (flowItems? handles steps true { r with tokens := rest }).map
            fun (items, r) => (.sequence p items, r)
        | .flowMappingStart :: rest =>
          (flowEntries? handles steps true { r with tokens := rest }).map
            fun (entries, r) => (.mapping p entries, r)
        | .blockSequenceStart :: rest =>
          if place = .flow then none
          else (blockItems? handles steps true { r with tokens := rest }).map
            fun (items, r) => (.sequence p items, r)
        | .blockMappingStart :: rest =>
          if place = .flow then none
          else (blockEntries? handles steps { r with tokens := rest }).map
            fun (entries, r) => (.mapping p entries, r)
        | .blockEntry :: _ =>
          if place = .blockEntry then
            (blockItems? handles steps false r).map fun (items, r) => (.sequence p items, r)
          else if p.isEmpty then none
          else some (.scalar p .plain [], r)
        | _ => if p.isEmpty then none else some (.scalar p .plain [], r)

/-- The items of a block sequence, up to its end. -/
def blockItems? (handles : Handles) :
    (steps : Nat) → (indented : Bool) → Reading → Option (List Node × Reading)
  | 0, _, _ => none
  | steps + 1, indented, r =>
    match r.tokens with
    | .blockEntry :: rest =>
      let r := { r with tokens := rest }
      let item :=
        if r.atItemEnd indented then some (.empty, r) else node? handles steps .block r
      match item with
      | none => none
      | some (item, r) =>
        (blockItems? handles steps indented r).map fun (items, r) => (item :: items, r)
    | .blockEnd :: rest => if indented then some ([], { r with tokens := rest }) else some ([], r)
    | _ => if indented then none else some ([], r)

/-- The entries of a block mapping, up to its end. -/
def blockEntries? (handles : Handles) :
    (steps : Nat) → Reading → Option (List (Node × Node) × Reading)
  | 0, _ => none
  | steps + 1, r =>
    match r.tokens with
    | .key :: rest =>
      match blockPart? handles steps { r with tokens := rest } with
      | none => none
      | some (key, r) =>
        let value := match r.tokens with
          | .value :: rest => blockPart? handles steps { r with tokens := rest }
          | _ => some (.empty, r)
        match value with
        | none => none
        | some (value, r) =>
          (blockEntries? handles steps r).map fun (entries, r) => ((key, value) :: entries, r)
    | .blockEnd :: rest => some ([], { r with tokens := rest })
    | _ => none

/-- The key or the value of a block mapping, which may be missing. -/
def blockPart? (handles : Handles) :
    (steps : Nat) → Reading → Option (Node × Reading)
  | 0, _ => none
  | steps + 1, r =>
    if r.atEntryEnd then some (.empty, r) else node? handles steps .blockEntry r

/-- The value of a pair in a flow collection, which may be missing. -/
def flowValue? (handles : Handles) :
    (steps : Nat) → (close : Token) → Reading → Option (Node × Reading)
  | 0, _, _ => none
  | steps + 1, close, r =>
    match r.tokens with
    | .value :: rest =>
      let r := { r with tokens := rest }
      if r.atFlowValueEnd close then some (.empty, r) else node? handles steps .flow r
    | _ => some (.empty, r)

/-- The items of a flow sequence, up to its end.  A pair makes up a mapping; where its key is
missing, the token in that place is passed over. -/
def flowItems? (handles : Handles) :
    (steps : Nat) → (first : Bool) → Reading → Option (List Node × Reading)
  | 0, _, _ => none
  | steps + 1, first, r =>
    match flowItem? first .flowSequenceEnd r with
    | none => none
    | some r =>
      match r.tokens with
      | .flowSequenceEnd :: rest => some ([], { r with tokens := rest })
      | .key :: rest =>
        let r := { r with tokens := rest }
        let key :=
          if r.atFlowKeyEnd .flowSequenceEnd then some (.empty, { r with tokens := rest.drop 1 })
          else node? handles steps .flow r
        match key with
        | none => none
        | some (key, r) =>
          match flowValue? handles steps .flowSequenceEnd r with
          | none => none
          | some (value, r) =>
            (flowItems? handles steps false r).map
              fun (items, r) => (.mapping {} [(key, value)] :: items, r)
      | _ =>
        match node? handles steps .flow r with
        | none => none
        | some (item, r) =>
          (flowItems? handles steps false r).map fun (items, r) => (item :: items, r)

/-- The entries of a flow mapping, up to its end.  A node alone is a key without a value. -/
def flowEntries? (handles : Handles) :
    (steps : Nat) → (first : Bool) → Reading → Option (List (Node × Node) × Reading)
  | 0, _, _ => none
  | steps + 1, first, r =>
    match flowItem? first .flowMappingEnd r with
    | none => none
    | some r =>
      match r.tokens with
      | .flowMappingEnd :: rest => some ([], { r with tokens := rest })
      | .key :: rest =>
        let r := { r with tokens := rest }
        let key :=
          if r.atFlowKeyEnd .flowMappingEnd then some (.empty, r)
          else node? handles steps .flow r
        match key with
        | none => none
        | some (key, r) =>
          match flowValue? handles steps .flowMappingEnd r with
          | none => none
          | some (value, r) =>
            (flowEntries? handles steps false r).map
              fun (entries, r) => ((key, value) :: entries, r)
      | _ =>
        match node? handles steps .flow r with
        | none => none
        | some (key, r) =>
          (flowEntries? handles steps false r).map
            fun (entries, r) => ((key, .empty) :: entries, r)

end

/-! ## Documents -/

/-- The handles that every document knows. -/
def standardHandles : Handles :=
  [(['!'], [exclamation]), (['!', '!'], Text.Utf8.encode "tag:yaml.org,2002:".toList)]

/-- The directives at the front of the tokens: the handles that they declare, whether there is a
version, and the rest.  A version or a handle may be declared once. -/
def directives? (version : Bool) (handles : Handles) :
    List Token → Option (Handles × List Token)
  | .versionDirective major minor :: rest =>
    if version || major ≠ 1 || !(minor == 1 || minor == 2) then none
    else directives? true handles rest
  | .tagDirective handle lead :: rest =>
    if (handles.lookup handle).isSome then none
    else directives? version (handles ++ [(handle, lead)]) rest
  | rest => some (handles, rest)

/-- A document has no content here. -/
def atContentEnd : List Token → Bool
  | .versionDirective _ _ :: _ | .tagDirective _ _ :: _ | .documentStart :: _
  | .documentEnd :: _ | .streamEnd :: _ => true
  | _ => false

/-- The document at the front of the tokens, whose beginning may be unmarked. -/
def document? (tokens : List Token) : Option (Node × Reading) := do
  let (handles, rest) ← directives? false [] tokens
  let marked := rest.length < tokens.length
  match rest with
  | .documentStart :: rest =>
    if atContentEnd rest then return (.empty, { tokens := rest })
    else node? (handles ++ standardHandles) (3 * rest.length + 3) .block { tokens := rest }
  | _ =>
    if marked then none
    else node? standardHandles (3 * rest.length + 3) .block { tokens := rest }

/-- The tree of the only document among the tokens of a text; an empty text has none. -/
def treeOf? : List Token → Option (Option Node)
  | [.streamEnd] => some none
  | tokens =>
    match document? tokens with
    | none => none
    | some (tree, r) =>
      if r.tokens.dropWhile (· == .documentEnd) == [.streamEnd] then some (some tree) else none

end LayeredFlags.Yaml
