import LayeredFlags.Text.Cut

/-!
# Paths

The file name of a path and its extension.  Components are divided by `/`; empty ones and `.` do
not count, and `..` is no file name.
-/

namespace LayeredFlags.Path

/-- The components of a path that count. -/
def components (path : List Char) : List (List Char) :=
  (Text.pieces (· == '/') path).filter fun s => !(s.isEmpty || s == ['.'])

/-- The last component of a path, if it is a file name. -/
def fileName? (path : List Char) : Option (List Char) :=
  match (components path).getLast? with
  | some name => if name = ['.', '.'] then none else some name
  | none => none

/-- What stands behind the last dot of a file name, unless the name begins with that dot. -/
def extension? (name : List Char) : Option (List Char) :=
  match Text.cutWhere? (· == '.') name.reverse with
  | some (ext, stem) => if stem.isEmpty then none else some ext.reverse
  | none => none

end LayeredFlags.Path
