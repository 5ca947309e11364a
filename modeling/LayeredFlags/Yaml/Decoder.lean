import LayeredFlags.Config.Document
import LayeredFlags.Text.Blank
import LayeredFlags.Yaml.Layout
import LayeredFlags.Yaml.Printer

/-!
# YAML configuration

The document of a YAML text.  Tags are dropped, keys that are no strings take their text, and a
text of blanks is an empty document.
-/

namespace LayeredFlags.Yaml

/-- A value without the tags at its root. -/
def Value.untagged : Value → Value
  | .tagged _ v => v.untagged
  | v => v

/-- The text of a key; a collection that has none is an empty key. -/
def keyText (key : Value) : String :=
  match key.untagged with
  | .string s => s
  | .bool b => if b then "true" else "false"
  | .int i => String.ofList (Number.intText i)
  | .float x => x.text .yaml
  | .null => "null"
  | v => String.ofList (Text.trimEnd (v.print?.getD []))

mutual

/-- The document of a value. -/
def Value.document : Value → Document
  | .null => .null
  | .bool b => .scalar (if b then "true" else "false")
  | .int i => .scalar (String.ofList (Number.intText i))
  | .float x => .scalar (x.text .yaml)
  | .string s => .scalar s
  | .sequence items => .list (itemDocuments items)
  | .mapping entries => .map (entryDocuments entries)
  | .tagged _ v => v.document

/-- The documents of the items of a sequence. -/
def itemDocuments : List Value → List Document
  | [] => []
  | v :: rest => v.document :: itemDocuments rest

/-- The documents of the entries of a mapping. -/
def entryDocuments : List (Value × Value) → List (String × Document)
  | [] => []
  | (key, value) :: rest => (keyText key, value.document) :: entryDocuments rest

end

/-- The tree of a whole text; an empty text has none. -/
def Node.read? (text : List Char) : Option (Option Node) :=
  (tokensOf? text).bind treeOf?

/-- The value of a whole text. -/
def Value.read? (text : List Char) : Option Value :=
  match Node.read? text with
  | none => none
  | some none => some .null
  | some (some tree) => tree.value?

/-- The document of a text, whose root must be a mapping or null. -/
def read (text : String) : Except DecodeError Document :=
  if (Text.trim text.toList).isEmpty then .ok .null
  else match Value.read? text.toList with
    | none => .error (.malformed .yaml)
    | some v =>
      match v.document with
      | .map entries => .ok (.map entries)
      | .null => .ok .null
      | _ => .error (.notAMap .yaml)

/-- The decoder of YAML files. -/
def decode (delimiter : String) : ConfigDecoder :=
  Document.decodeWith read delimiter

end LayeredFlags.Yaml
