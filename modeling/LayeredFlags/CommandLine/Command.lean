import LayeredFlags.CommandLine.Given
import LayeredFlags.Config.Format
import LayeredFlags.Report.Basic
import LayeredFlags.Resolution.Options

/-!
# Commands

What a command line asks for: to check a manifest, to list the keys of its flags, or to resolve
its flags from arguments, the environment and a configuration file.
-/

namespace LayeredFlags

/-- What resolving is asked to do. -/
structure ResolveRequest where
  envEnabled : Bool
  rules : KeyRules
  envSplit : Option String
  configFile : Option ConfigFile
  /-- The format of the configuration file, if it is not left to the name of the file. -/
  configFormat : Option Format
  allowMissing : Bool
  ignoreUndefined : Bool
  /-- The flags are read in compatibility mode even if the manifest does not say so. -/
  compat : Bool
  reportFormat : ReportFormat
  args : List String
  deriving DecidableEq, Repr

/-- What a command line asks for; each command reads the manifest at a path. -/
inductive Command where
  | check (manifest : String)
  | keys (manifest : String) (rules : KeyRules)
  | resolve (manifest : String) (request : ResolveRequest)
  deriving DecidableEq, Repr

/-- The format of the configuration file: the one asked for, else the one that its path has, else
plain. -/
def ResolveRequest.format (r : ResolveRequest) : Format :=
  match r.configFormat, r.configFile with
  | some f, _ => f
  | none, some (.path path) => .ofPath path
  | none, _ => .plain

/-- The options of the parse.  A stem for keys turns the environment on. -/
def ResolveRequest.options (r : ResolveRequest) (env : String → Option (List UInt8))
    (openFile : String → FileAccess) : ParseOptions :=
  { envEnabled := r.envEnabled || r.rules.stem.isSome
    rules := r.rules
    envSplit := r.envSplit
    configFile := r.configFile
    decoder := r.format.decoder
    allowMissing := r.allowMissing
    ignoreUndefined := r.ignoreUndefined
    env
    openFile }

namespace CommandLine

/-- The switches of key rules. -/
def keySwitches : List String :=
  ["env-short-names", "case-sensitive"]

/-- The key rules that options ask for. -/
def Given.rules (g : Given) : KeyRules :=
  { stem := g.value? "env-prefix"
    shortNames := g.has "env-short-names"
    caseSensitive := g.has "case-sensitive" }

/-- A path that an option gives; it is not empty. -/
def Given.path? (g : Given) (name : String) : Option (Option String) :=
  match g.value? name with
  | some path => if path = "" then none else some (some path)
  | none => some none

/-- The configuration file: named by a path or by a flag, not by both. -/
def Given.configFile? (g : Given) : Option (Option ConfigFile) := do
  match ← g.path? "config", g.value? "config-flag" with
  | some _, some _ => none
  | some path, none => return some (.path path)
  | none, some flag => return some (.flag flag)
  | none, none => return none

/-- What an option with a limited set of values means, or the default if it is not given. -/
def Given.choice? {α : Type} (g : Given) (name : String) (read : String → Option α)
    (default : α) : Option α :=
  match g.value? name with
  | some raw => read raw
  | none => some default

/-- The request that options and arguments make. -/
def Given.request? (g : Given) : Option ResolveRequest := do
  let configFile ← g.configFile?
  let configFormat ← g.choice? "config-format" (fun raw => (Format.ofName? raw).map some) none
  let reportFormat ← g.choice? "format" ReportFormat.ofName? .json
  return {
    envEnabled := g.has "env"
    rules := g.rules
    envSplit := g.value? "env-split"
    configFile
    configFormat
    allowMissing := g.has "allow-missing-config"
    ignoreUndefined := g.has "ignore-undefined"
    compat := g.has "std-compat"
    reportFormat
    args := g.tail }

/-- The options of checking. -/
def checkTable : OptionTable :=
  { switches := [], valued := ["manifest"] }

/-- The options of listing keys. -/
def keysTable : OptionTable :=
  { switches := keySwitches, valued := ["manifest", "env-prefix"] }

/-- The options of resolving. -/
def resolveTable : OptionTable :=
  { switches := keySwitches ++
      ["env", "allow-missing-config", "ignore-undefined", "std-compat"]
    valued := ["manifest", "env-prefix", "env-split", "config", "config-flag", "config-format",
      "format"] }

/-- The manifest and the other options of a command without arguments. -/
def readPlain? (t : OptionTable) (words : List String) : Option (String × Given) := do
  let g ← t.read? words
  let manifest ← ← g.path? "manifest"
  if g.tail.isEmpty then return (manifest, g) else none

/-- The command with a name. -/
def commandNamed? (name : String) (words : List String) : Option Command :=
  match name with
  | "check" => (readPlain? checkTable words).map fun (manifest, _) => .check manifest
  | "keys" => (readPlain? keysTable words).map fun (manifest, g) => .keys manifest g.rules
  | "resolve" => do
    let g ← resolveTable.read? words
    let manifest ← ← g.path? "manifest"
    return .resolve manifest (← g.request?)
  | _ => none

/-- The command that words ask for, unless they break the rules. -/
def command? : List String → Option Command
  | [] => none
  | word :: rest =>
    if isVerbose word then
      match rest with
      | [] => none
      | name :: rest => commandNamed? name rest
    else commandNamed? word rest

end CommandLine

end LayeredFlags
