import LayeredFlags.CommandLine.Command
import LayeredFlags.Manifest.File
import LayeredFlags.Report.Usage
import LayeredFlags.Resolution.Parse

/-!
# Running commands

What a command prints, as a function of the files and the variables that it can see.
-/

namespace LayeredFlags

/-- What a command can see. -/
structure World where
  openFile : String → FileAccess
  env : String → Option (List UInt8)

/-- Why a command fails. -/
inductive CommandError where
  /-- The file at a path gives no manifest. -/
  | manifest (path : String) (cause : ManifestError)
  | build (cause : BuildError)
  | flags (cause : FlagError)
  deriving DecidableEq, Repr

/-- The wording of why a command fails. -/
def CommandError.message : CommandError → String
  | .manifest path cause => path ++ ": " ++ cause.message
  | .build cause => cause.message
  | .flags cause => cause.message

/-- How a command line ends. -/
inductive Outcome where
  | printed (text : String)
  | failed (cause : CommandError)
  /-- The words are no command. -/
  | misused
  deriving DecidableEq, Repr

/-- The set of the manifest at a path. -/
def World.flagSet (w : World) (path : String) : Except CommandError FlagSet :=
  match Manifest.load w.openFile path with
  | .error cause => .error (.manifest path cause)
  | .ok m =>
    match m.build with
    | .ok s => .ok s
    | .error cause => .error (.build cause)

/-- What checking a set prints. -/
def FlagSet.checkText (s : FlagSet) : String :=
  "ok: " ++ toString s.flags.length ++ " flags in " ++ s.name ++ "\n"

/-- The line of an entry of a key index. -/
def KeyEntry.line (e : KeyEntry) : String :=
  e.flag ++ "\t" ++ ", ".intercalate e.keys ++ "\n"

/-- The keys of the flags of a set, a line each. -/
def FlagSet.keysText (r : KeyRules) (s : FlagSet) : Except CommandError String :=
  let x := KeyIndex.ofChain r ⟨s, []⟩
  match x.clash? with
  | some cause => .error (.flags cause)
  | none => .ok (String.join (x.entries.map KeyEntry.line))

/-- The report on a set after a parse, or its usage if help was asked for. -/
def ResolveRequest.text (r : ResolveRequest) (w : World) (s : FlagSet) :
    Except CommandError String :=
  let s := { s with compat := s.compat || r.compat }
  let a := Chain.parse (r.options w.env w.openFile) r.args ⟨s, []⟩
  match a.failure with
  | none => .ok ((Report.ofSet a.state.own).text r.reportFormat)
  | some .helpRequested => .ok a.state.own.usageText
  | some cause => .error (.flags cause)

/-- What a command prints. -/
def Command.text (w : World) : Command → Except CommandError String
  | .check manifest => (w.flagSet manifest).map FlagSet.checkText
  | .keys manifest rules => (w.flagSet manifest).bind (·.keysText rules)
  | .resolve manifest request => (w.flagSet manifest).bind (request.text w)

/-! ## What a command looks at -/

/-- The path of the manifest of a command. -/
def Command.manifestPath : Command → String
  | .check manifest => manifest
  | .keys manifest _ => manifest
  | .resolve manifest _ => manifest

/-- The variables that resolving can consult, once the manifest can be seen. -/
def Command.envKeys (w : World) : Command → List String
  | .resolve manifest request =>
    match w.flagSet manifest with
    | .ok s => (KeyIndex.ofChain request.rules ⟨s, []⟩).entries.flatMap KeyEntry.keys
    | .error _ => []
  | _ => []

/-- The path of the configuration file, once the manifest and the variables can be seen: the one
that would be missing if no file existed. -/
def Command.configPath? (w : World) : Command → Option String
  | .resolve manifest request =>
    let request := { request with allowMissing := false }
    match w.flagSet manifest with
    | .error _ => none
    | .ok s =>
      match request.text { w with openFile := fun _ => .missing } s with
      | .error (.flags (.fileNotFound path)) => some path
      | _ => none
  | _ => none

/-- How a command line ends. -/
def CommandLine.run (w : World) (words : List String) : Outcome :=
  match command? words with
  | none => .misused
  | some command =>
    match command.text w with
    | .ok text => .printed text
    | .error cause => .failed cause

end LayeredFlags
