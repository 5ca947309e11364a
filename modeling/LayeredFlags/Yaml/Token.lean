/-!
# YAML tokens

The pieces that a YAML text is made of: scalars with their style, properties and aliases, the
indicators, and the beginnings and ends of block collections that the indentation stands for.  Tags
are bytes, since their escapes need not make up characters.
-/

namespace LayeredFlags.Yaml

/-- How a scalar is written. -/
inductive Style where
  | plain
  | singleQuoted
  | doubleQuoted
  | literal
  | folded
  deriving DecidableEq, Repr

/-- A piece of a text. -/
inductive Token where
  | versionDirective (major minor : Nat)
  | tagDirective (handle : List Char) (lead : List UInt8)
  | documentStart
  | documentEnd
  | blockSequenceStart
  | blockMappingStart
  | blockEnd
  | flowSequenceStart
  | flowSequenceEnd
  | flowMappingStart
  | flowMappingEnd
  | blockEntry
  | flowEntry
  | key
  | value
  | alias (name : List Char)
  | anchor (name : List Char)
  | tag (handle : List Char) (suffix : List UInt8)
  | scalar (style : Style) (text : List Char)
  | streamEnd
  deriving DecidableEq, Repr

end LayeredFlags.Yaml
