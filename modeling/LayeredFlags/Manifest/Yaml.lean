import LayeredFlags.Manifest.Basic
import LayeredFlags.Yaml.Decoder

/-!
# Manifests in YAML

A manifest and its flags are mappings.  Fields that are missing take their defaults; unknown ones
are passed over; a known one stands once.  A string may be any scalar; an empty plain scalar
stands for an empty mapping, an empty sequence or an optional value that is missing.
-/

namespace LayeredFlags.Manifest

open Yaml (Node follow isNullWord boolWord? standardTag localName?)

/-- Reads a node; the state is how many aliases may still be followed. -/
abbrev NodeReader (α : Type) := Node → StateT Nat Option α

/-- The text of a scalar of any style. -/
def yamlText? (target : Nat → Option Node) : NodeReader String := fun node => do
  match ← follow target node with
  | .scalar _ _ text => return String.ofList text
  | _ => failure

/-- The only character of a scalar. -/
def yamlChar? (target : Nat → Option Node) : NodeReader Char := fun node => do
  match (← yamlText? target node).toList with
  | [c] => return c
  | _ => failure

/-- A truth value: a plain scalar, or a literal block with the tag of truth values. -/
def yamlBool? (target : Nat → Option Node) : NodeReader Bool := fun node => do
  match ← follow target node with
  | .scalar p style text =>
    if style = .plain || (style = .literal && p.tag = some (standardTag "bool")) then
      liftM (boolWord? text)
    else failure
  | _ => failure

/-- The items of a sequence. -/
def yamlList? {α : Type} (target : Nat → Option Node) (read : NodeReader α) :
    NodeReader (List α) := fun node => do
  match ← follow target node with
  | .sequence _ items => items.mapM read
  | .scalar _ .plain [] => return []
  | _ => failure

/-- A node means that an optional value is missing.  The tag of null demands the text of null, and
with any other tag the value is there. -/
def yamlMissing? : Node → Option Bool
  | .scalar p .plain text =>
    match p.tag with
    | none => some (text.isEmpty || isNullWord text)
    | some tag =>
      if tag = standardTag "null" then if isNullWord text then some true else none
      else some false
  | _ => some false

/-- An optional value. -/
def yamlOptional? {α : Type} (target : Nat → Option Node) (read : NodeReader α) :
    NodeReader (Option α) := fun node => do
  let node ← follow target node
  if ← liftM (yamlMissing? node) then return none else return some (← read node)

/-- The name of a kind: a scalar, or a local tag on an empty plain one. -/
def yamlKind? (target : Nat → Option Node) : NodeReader FlagKind := fun node => do
  match ← follow target node with
  | .scalar p style text =>
    match p.tag.bind localName? with
    | some name =>
      if style = .plain && (text.isEmpty || isNullWord text) then liftM (FlagKind.ofName? name)
      else failure
    | none => liftM (FlagKind.ofName? (String.ofList text))
  | _ => failure

/-- The known fields of a mapping. -/
def yamlFields? (target : Nat → Option Node) (names : List String) :
    NodeReader (List (String × Node)) := fun node => do
  match ← follow target node with
  | .mapping _ entries =>
    entries.foldlM (fun known (key, value) => do
      let name ← yamlText? target key
      if !names.contains name then return known
      else if known.any (·.1 == name) then failure
      else return known ++ [(name, value)]) []
  | .scalar _ .plain [] => return []
  | _ => failure

/-- A field, or its default where it is missing. -/
def yamlField? {α : Type} (fields : List (String × Node)) (name : String) (read : NodeReader α)
    (default : α) : StateT Nat Option α :=
  match fields.lookup name with
  | some node => read node
  | none => return default

/-- A flag of a manifest. -/
def yamlSpec? (target : Nat → Option Node) : NodeReader FlagSpec := fun node => do
  let text := yamlText? target
  let fields ← yamlFields? target
    ["long", "short", "kind", "default", "defaults", "choices", "usage", "placeholder"] node
  let long ← yamlField? fields "long" (yamlOptional? target text) none
  let short ← yamlField? fields "short" (yamlOptional? target (yamlChar? target)) none
  let kind ← yamlField? fields "kind" (yamlKind? target) .string
  let default ← yamlField? fields "default" (yamlOptional? target text) none
  let defaults ← yamlField? fields "defaults" (yamlList? target text) []
  let choices ← yamlField? fields "choices" (yamlList? target text) []
  let usage ← yamlField? fields "usage" text ""
  let placeholder ← yamlField? fields "placeholder" (yamlOptional? target text) none
  return { names := { short, long }, kind, default, defaults, choices, usage, placeholder }

/-- The manifest at a node. -/
def yamlManifest? (target : Nat → Option Node) : NodeReader Manifest := fun node => do
  let fields ← yamlFields? target ["name", "std_compat", "flags"] node
  let name ← yamlField? fields "name" (yamlText? target) ""
  let compat ← yamlField? fields "std_compat" (yamlBool? target) false
  let flags ← yamlField? fields "flags" (yamlList? target (yamlSpec? target)) []
  return { name, compat, flags }

/-- The manifest of a tree; that of an empty text is all defaults.  For each event of the tree a
hundred aliases may be followed. -/
def ofYaml? : Option Node → Option Manifest
  | none => some {}
  | some tree =>
    let nodes := tree.nodes
    ((yamlManifest? (Yaml.lastAnchored? nodes) tree).run (100 * Yaml.eventCount nodes)).map (·.1)

end LayeredFlags.Manifest
