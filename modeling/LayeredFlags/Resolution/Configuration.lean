import LayeredFlags.Keys.Index
import LayeredFlags.Resolution.Options

/-!
# The configuration tier

Each pair of the configuration goes to the flag that answers to its name, or else to the flag
with its name as a key.  Flags that were set before the tier keep their values; a flag that the
tier itself has set takes further pairs.
-/

namespace LayeredFlags.Chain

/-- The path of the configuration file, if there is one. -/
def configPath (o : ParseOptions) (c : Chain) : Except FlagError (Option String) :=
  match o.configFile with
  | none => .ok none
  | some (.path path) => .ok (some path)
  | some (.flag name) =>
    match c.valueOf? name with
    | none => .error (.unknownFlag name)
    | some value => .ok (if value = "" then none else some value)

/-- The flag that a name in a configuration means. -/
def resolveName (c : Chain) (x : KeyIndex) (name : String) : Except FlagError (Option FlagId) :=
  match c.locateName name with
  | some id => .ok (some id)
  | none => x.reverse name

/-- Assigns one pair, unless its flag is among those already provided. -/
def receive (o : ParseOptions) (x : KeyIndex) (path : String) (provided : List FlagId)
    (pair : String × String) (c : Chain) : Attempt Chain :=
  match c.resolveName x pair.1 with
  | .error e => ⟨c, some e⟩
  | .ok none => ⟨c, if o.ignoreUndefined then none else some (.unknownFlag pair.1)⟩
  | .ok (some id) =>
    if provided.contains id then ⟨c, none⟩ else c.assign id pair.2 (.config path)

/-- The chain after the configuration file at a path. -/
def fillFromFile (o : ParseOptions) (x : KeyIndex) (path : String) (c : Chain) : Attempt Chain :=
  match o.openFile path with
  | .missing => ⟨c, if o.allowMissing then none else some (.fileNotFound path)⟩
  | .refused reason => ⟨c, some (.unopenable path reason)⟩
  | .opened source => (o.decoder source).feed (receive o x path c.provided) c

/-- The chain after the configuration tier. -/
def fillFromConfig (o : ParseOptions) (x : KeyIndex) (c : Chain) : Attempt Chain :=
  match c.configPath o with
  | .error e => ⟨c, some e⟩
  | .ok none => ⟨c, none⟩
  | .ok (some path) => c.fillFromFile o x path

end LayeredFlags.Chain
