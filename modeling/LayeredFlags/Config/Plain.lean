import LayeredFlags.Config.LineFormat
import LayeredFlags.Text.Blank
import LayeredFlags.Text.Cut

/-!
# The plain format

One flag a line: its name, with any dashes before it, then a value.  Blank lines and lines that
begin with `#` are skipped, ` #` begins a comment, and a name without a value means `true`.
-/

namespace LayeredFlags.Plain

/-- The pair of a line, if it holds one. -/
def pairOf? (line : String) : Option (String × String) :=
  let s := Text.trim line.toList
  if s.isEmpty || s.head? == some '#' then none
  else
    let (name, rest) := (Text.cutWhere? Text.isBlank s).getD (s, [])
    let value := Text.trim (Text.before [' ', '#'] rest)
    some (String.ofList (Text.dropDashes name),
      if value.isEmpty then "true" else String.ofList value)

/-- The plain format by lines, none of which is bad. -/
def lineFormat : LineFormat where
  entry line := .ok (pairOf? line)
  broken := .unreadable

@[simp] theorem entry_lineFormat (line : String) :
    lineFormat.entry line = .ok (pairOf? line) :=
  rfl

/-- The pairs of a source, up to the first line that cannot be read. -/
def decode (s : Source) : Decoded :=
  lineFormat.decode s

end LayeredFlags.Plain
