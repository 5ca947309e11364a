import LayeredFlags.FlagSet.Basic
import LayeredFlags.Json.Printer
import LayeredFlags.Text.Blank
import LayeredFlags.Yaml.Printer

/-!
# Reports

What a parse made of a set of flags: an entry for each flag with its value and where that came
from, and the leftover arguments.  A report is written as JSON or as YAML.
-/

namespace LayeredFlags

/-- One flag of a report. -/
structure ReportEntry where
  name : String
  value : String
  set : Bool
  /-- Where the value came from, if the flag is set. -/
  source : Option String
  deriving DecidableEq, Repr

/-- The flags of a set and the leftover arguments. -/
structure Report where
  flags : List ReportEntry
  args : List String
  deriving DecidableEq, Repr

/-- The formats of reports. -/
inductive ReportFormat where
  | json
  | yaml
  deriving DecidableEq, Repr

/-- The format with a name. -/
def ReportFormat.ofName? : String → Option ReportFormat
  | "json" => some .json
  | "yaml" => some .yaml
  | _ => none

/-- The entry of a flag. -/
def ReportEntry.ofFlag (f : Flag) : ReportEntry :=
  { name := f.display, value := f.text, set := f.isSet, source := f.origin.map Origin.text }

/-- The report on a set. -/
def Report.ofSet (s : FlagSet) : Report :=
  { flags := s.flags.map .ofFlag, args := s.leftovers }

/-! ## JSON -/

/-- A member of an object. -/
def jsonMember (key : String) (t : Json.Tree) : List Json.StringPiece × Json.Tree :=
  (key.toList.map .char, t)

/-- The object of an entry. -/
def ReportEntry.json (e : ReportEntry) : Json.Tree :=
  .object ([jsonMember "name" (.ofString e.name), jsonMember "value" (.ofString e.value),
    jsonMember "set" (.bool e.set)] ++
      (e.source.map fun s => jsonMember "source" (.ofString s)).toList)

/-- The object of a report. -/
def Report.json (r : Report) : Json.Tree :=
  .object [jsonMember "flags" (.array (r.flags.map ReportEntry.json)),
    jsonMember "args" (.array (r.args.map .ofString))]

/-! ## YAML -/

/-- The mapping of an entry. -/
def ReportEntry.yaml (e : ReportEntry) : Yaml.Value :=
  .mapping ([(.string "name", .string e.name), (.string "value", .string e.value),
    (.string "set", .bool e.set)] ++ (e.source.map fun s => (.string "source", .string s)).toList)

/-- The mapping of a report. -/
def Report.yaml (r : Report) : Yaml.Value :=
  .mapping [(.string "flags", .sequence (r.flags.map ReportEntry.yaml)),
    (.string "args", .sequence (r.args.map .string))]

/-! ## Texts -/

/-- The text of a report, which ends with one line end. -/
def Report.text (f : ReportFormat) (r : Report) : String :=
  let body := match f with
    | .json => r.json.pretty 0
    | .yaml => r.yaml.print
  String.ofList (Text.trimEnd body ++ ['\n'])

end LayeredFlags
