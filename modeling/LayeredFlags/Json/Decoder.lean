import LayeredFlags.Config.Document
import LayeredFlags.Json.Reader
import LayeredFlags.Text.Blank

/-!
# JSON configuration

The document of a JSON text, nested in at most 127 collections.  A repeated key keeps its first
place and takes its last value.  A text of blanks is an empty document.
-/

namespace LayeredFlags.Json

/-- The entries of a map after one more; a known key keeps its place. -/
def putEntry (key : String) (d : Document) :
    List (String × Document) → List (String × Document)
  | [] => [(key, d)]
  | (k, e) :: rest => if k = key then (k, d) :: rest else (k, e) :: putEntry key d rest

/-- The entries of a map from all its members in order. -/
def collectEntries (members : List (String × Document)) : List (String × Document) :=
  members.foldl (fun entries m => putEntry m.1 m.2 entries) []

/-- The deepest nesting of collections. -/
def depthLimit : Nat := 127

mutual

/-- The document of a tree, with `depth` more collections to be entered. -/
def Tree.document? : (depth : Nat) → Tree → Option Document
  | _, .null => some .null
  | _, .bool b => some (.scalar (if b then "true" else "false"))
  | _, .number n => n.value?.map fun v => .scalar v.text
  | _, .string s => (stringText? s).map fun t => .scalar (String.ofList t)
  | 0, .array _ => none
  | 0, .object _ => none
  | depth + 1, .array items => (itemDocuments? depth items).map .list
  | depth + 1, .object members =>
    (memberDocuments? depth members).map fun l => .map (collectEntries l)

/-- The documents of the elements of an array. -/
def itemDocuments? : (depth : Nat) → List Tree → Option (List Document)
  | _, [] => some []
  | depth, t :: rest =>
    match t.document? depth, itemDocuments? depth rest with
    | some d, some ds => some (d :: ds)
    | _, _ => none

/-- The documents of the members of an object. -/
def memberDocuments? : (depth : Nat) → List (List StringPiece × Tree) →
    Option (List (String × Document))
  | _, [] => some []
  | depth, (key, t) :: rest =>
    match stringText? key, t.document? depth, memberDocuments? depth rest with
    | some k, some d, some ds => some ((String.ofList k, d) :: ds)
    | _, _, _ => none

end

/-- The document of a text, whose root must be an object or null. -/
def read (text : String) : Except DecodeError Document :=
  if (Text.trim text.toList).isEmpty then .ok .null
  else match (Tree.read? text.toList).bind (·.document? depthLimit) with
    | none => .error (.malformed .json)
    | some (.map entries) => .ok (.map entries)
    | some .null => .ok .null
    | some _ => .error (.notAMap .json)

/-- The decoder of JSON files. -/
def decode (delimiter : String) : ConfigDecoder :=
  Document.decodeWith read delimiter

end LayeredFlags.Json
