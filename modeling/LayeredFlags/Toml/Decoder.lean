import LayeredFlags.Toml.Table

/-!
# TOML configuration

The document of a TOML text.
-/

namespace LayeredFlags.Toml

/-- The document of a text. -/
def read (text : String) : Except DecodeError Document :=
  match (expressions? text.toList).bind root? with
  | some entries => .ok (.map (entryDocuments entries))
  | none => .error (.malformed .toml)

/-- The decoder of TOML files. -/
def decode (delimiter : String) : ConfigDecoder :=
  Document.decodeWith read delimiter

end LayeredFlags.Toml
