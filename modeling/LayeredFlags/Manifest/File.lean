import LayeredFlags.Config.Path
import LayeredFlags.Manifest.Json
import LayeredFlags.Manifest.Yaml
import LayeredFlags.Resolution.Options

/-!
# Manifest files

A manifest file holds JSON if its extension says so, in any letter case, and YAML otherwise.
-/

namespace LayeredFlags

/-- Why a manifest file gives no manifest. -/
inductive ManifestError where
  /-- The file could not be opened. -/
  | unreadable (reason : String)
  | malformedJson
  | malformedYaml
  deriving DecidableEq, Repr

/-- The wording of why a file gives no manifest. -/
def ManifestError.message : ManifestError → String
  | .unreadable reason => "failed to read manifest: " ++ reason
  | .malformedJson => "invalid manifest JSON"
  | .malformedYaml => "invalid manifest YAML"

namespace Manifest

/-- The file at a path holds JSON. -/
def isJsonPath (path : String) : Bool :=
  match (Path.fileName? path.toList).bind Path.extension? with
  | some ext => Text.asciiLower (String.ofList ext) == "json"
  | none => false

/-- The manifest of a text. -/
def read (isJson : Bool) (text : String) : Except ManifestError Manifest :=
  if isJson then
    match (Json.Tree.read? text.toList).bind ofJson? with
    | some m => .ok m
    | none => .error .malformedJson
  else
    match (Yaml.Node.read? text.toList).bind ofYaml? with
    | some m => .ok m
    | none => .error .malformedYaml

/-- Why a file that does not exist cannot be read. -/
def noSuchFile : String :=
  "No such file or directory (os error 2)"

/-- The manifest in the file at a path. -/
def load (openFile : String → FileAccess) (path : String) : Except ManifestError Manifest :=
  let isJson := isJsonPath path
  match openFile path with
  | .missing => .error (.unreadable noSuchFile)
  | .refused reason => .error (.unreadable reason)
  | .opened source =>
    match source.text with
    | .ok text => read isJson text
    | .error _ => .error (if isJson then .malformedJson else .malformedYaml)

end Manifest

end LayeredFlags
