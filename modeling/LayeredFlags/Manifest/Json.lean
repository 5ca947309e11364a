import LayeredFlags.Json.Reader
import LayeredFlags.Manifest.Basic

/-!
# Manifests in JSON

A manifest and its flags are objects, or arrays of the values of their fields in order.  Fields
that are missing take their defaults; unknown ones are passed over; a known one stands once.
-/

namespace LayeredFlags.Manifest

open Json (Tree stringText?)

/-- The text of a string. -/
def jsonText? : Tree → Option String
  | .string pieces => (stringText? pieces).map String.ofList
  | _ => none

/-- The only character of a string. -/
def jsonChar? (t : Tree) : Option Char :=
  match (jsonText? t).map String.toList with
  | some [c] => some c
  | _ => none

/-- A truth value. -/
def jsonBool? : Tree → Option Bool
  | .bool b => some b
  | _ => none

/-- The elements of an array. -/
def jsonList? {α : Type} (read : Tree → Option α) : Tree → Option (List α)
  | .array items => items.mapM read
  | _ => none

/-- A value or null. -/
def jsonOptional? {α : Type} (read : Tree → Option α) : Tree → Option (Option α)
  | .null => some none
  | t => (read t).map some

/-- The name of a kind, alone or as the only key of an object, with null behind it. -/
def jsonKind? : Tree → Option FlagKind
  | .object [(name, .null)] => (jsonText? (.string name)).bind FlagKind.ofName?
  | t => (jsonText? t).bind FlagKind.ofName?

/-- The known fields among the members of an object.  All keys must be texts. -/
def knownMembers? (names : List String) : List (List Json.StringPiece × Tree) →
    Option (List (String × Tree))
  | [] => some []
  | (key, t) :: rest =>
    match stringText? key, knownMembers? names rest with
    | some name, some known =>
      let name := String.ofList name
      if !names.contains name then some known
      else if known.any (·.1 == name) then none
      else some ((name, t) :: known)
    | _, _ => none

/-- The known fields of an object or an array. -/
def jsonFields? (names : List String) : Tree → Option (List (String × Tree))
  | .object members => knownMembers? names members
  | .array items => if items.length ≤ names.length then some (names.zip items) else none
  | _ => none

/-- A field, or its default where it is missing. -/
def jsonField? {α : Type} (fields : List (String × Tree)) (name : String)
    (read : Tree → Option α) (default : α) : Option α :=
  match fields.lookup name with
  | some t => read t
  | none => some default

/-- A flag of a manifest. -/
def jsonSpec? (t : Tree) : Option FlagSpec := do
  let fields ← jsonFields?
    ["long", "short", "kind", "default", "defaults", "choices", "usage", "placeholder"] t
  let long ← jsonField? fields "long" (jsonOptional? jsonText?) none
  let short ← jsonField? fields "short" (jsonOptional? jsonChar?) none
  let kind ← jsonField? fields "kind" jsonKind? .string
  let default ← jsonField? fields "default" (jsonOptional? jsonText?) none
  let defaults ← jsonField? fields "defaults" (jsonList? jsonText?) []
  let choices ← jsonField? fields "choices" (jsonList? jsonText?) []
  let usage ← jsonField? fields "usage" jsonText? ""
  let placeholder ← jsonField? fields "placeholder" (jsonOptional? jsonText?) none
  return { names := { short, long }, kind, default, defaults, choices, usage, placeholder }

/-- The manifest of a tree. -/
def ofJson? (t : Tree) : Option Manifest := do
  let fields ← jsonFields? ["name", "std_compat", "flags"] t
  let name ← jsonField? fields "name" jsonText? ""
  let compat ← jsonField? fields "std_compat" jsonBool? false
  let flags ← jsonField? fields "flags" (jsonList? jsonSpec?) []
  return { name, compat, flags }

end LayeredFlags.Manifest
