import LayeredFlags.CommandLine.Run

/-!
# The program

Reads the files and the variables that the command line makes it look at, and prints what the
command prints.
-/

namespace LayeredFlags.Program

/-- Opens and reads a file. -/
def openFile (path : String) : IO FileAccess := do
  match ← (IO.FS.Handle.mk path .read).toBaseIO with
  | .error (.noFileOrDirectory ..) => return .missing
  | .error e => return .refused (toString e)
  | .ok handle =>
    match ← handle.readBinToEnd.toBaseIO with
    | .ok bytes => return .opened { bytes := bytes.toList }
    | .error e => return .opened { bytes := [], failure := some (toString e) }

/-- The files at some paths. -/
def openFiles (paths : List String) : IO (List (String × FileAccess)) :=
  paths.mapM fun path => return (path, ← openFile path)

/-- The variables with some names. -/
def readVariables (names : List String) : IO (List (String × List UInt8)) := do
  let values ← names.mapM fun name => return (name, ← IO.getEnv name)
  return values.filterMap fun (name, value) => value.map fun v => (name, v.toUTF8.toList)

/-- What can be seen of some files and variables. -/
def worldOf (files : List (String × FileAccess)) (bound : List (String × List UInt8)) : World :=
  { openFile := fun path => (files.lookup path).getD .missing
    env := fun name => bound.lookup name }

/-- What can be seen of all that a command looks at. -/
def look (command : Command) : IO World := do
  let manifest ← openFiles [command.manifestPath]
  let bound ← readVariables (command.envKeys (worldOf manifest []))
  let config ← openFiles (command.configPath? (worldOf manifest bound)).toList
  return worldOf (manifest ++ config) bound

end LayeredFlags.Program

open LayeredFlags in
/-- Runs the command that the words ask for. -/
def main (words : List String) : IO UInt32 := do
  let world ← match CommandLine.command? words with
    | some command => Program.look command
    | none => pure (Program.worldOf [] [])
  match CommandLine.run world words with
  | .printed text =>
    IO.print text
    return 0
  | .failed cause =>
    IO.eprintln ("error: " ++ cause.message)
    return 1
  | .misused =>
    IO.eprintln "error: the command line is not understood"
    return 2
