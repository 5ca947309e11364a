import LayeredFlags.FlagSet.Basic

/-!
# Manifests

A manifest describes a set of flags.  Building it gives each flag a value of its kind that holds
the default, and registers the flags in order; the first flag that cannot be made or registered
ends this.
-/

namespace LayeredFlags

/-- The kind of value behind a flag of a manifest. -/
inductive FlagKind where
  | string
  | bool
  | int
  | uint
  | float
  | list
  | choice
  deriving DecidableEq, Repr

namespace FlagKind

/-- The name of a kind in manifests. -/
def name : FlagKind → String
  | .string => "string"
  | .bool => "bool"
  | .int => "int"
  | .uint => "uint"
  | .float => "float"
  | .list => "list"
  | .choice => "enum"

/-- All kinds. -/
def all : List FlagKind :=
  [.string, .bool, .int, .uint, .float, .list, .choice]

/-- The kind with a name. -/
def ofName? (s : String) : Option FlagKind :=
  all.find? (·.name == s)

theorem ofName?_name (k : FlagKind) : ofName? k.name = some k := by
  cases k <;> decide

end FlagKind

/-- One flag of a manifest. -/
structure FlagSpec where
  names : FlagNames := {}
  kind : FlagKind := .string
  default : Option String := none
  /-- The initial elements of a list. -/
  defaults : List String := []
  /-- The choices of a choice; the first is its default. -/
  choices : List String := []
  usage : String := ""
  placeholder : Option String := none
  deriving DecidableEq, Repr

/-- A description of a set of flags. -/
structure Manifest where
  name : String := ""
  compat : Bool := false
  flags : List FlagSpec := []
  deriving DecidableEq, Repr

/-- Why a default is refused. -/
inductive DefaultProblem where
  | notABoolean
  | noChoices
  | refused (problem : ValueProblem)
  deriving DecidableEq, Repr

/-- The wording of why a default is refused. -/
def DefaultProblem.message : DefaultProblem → String
  | .notABoolean => "not a boolean"
  | .noChoices => "enum flag needs at least one choice"
  | .refused problem => problem.message

/-- Why a manifest cannot be built. -/
inductive BuildError where
  /-- The kind of a flag refuses its default. -/
  | invalidDefault (flag raw : String) (problem : DefaultProblem)
  /-- The names of a flag are malformed or taken. -/
  | unregistered (cause : FlagError)
  deriving DecidableEq, Repr

/-- The wording of why a manifest cannot be built.  An empty default is not shown. -/
def BuildError.message : BuildError → String
  | .invalidDefault flag raw problem =>
    let shown := if raw = "" then "" else Text.quoted raw ++ ": "
    "invalid default for " ++ flag ++ ": " ++ shown ++ problem.message
  | .unregistered cause => cause.message

namespace FlagSpec

/-- A default that the kind of the flag refuses. -/
def invalid {α : Type} (f : FlagSpec) (raw : String) (problem : DefaultProblem) :
    Except BuildError α :=
  .error (.invalidDefault f.names.display raw problem)

/-- A scalar that holds the default, or what its type starts from. -/
def scalarValue (f : FlagSpec) (type : ScalarType) : Except BuildError Value :=
  match f.default with
  | none => .ok (.ofDefault type type.zero)
  | some raw =>
    match type.read raw with
    | .ok d => .ok (.ofDefault type d)
    | .error problem => f.invalid raw (.refused problem)

/-- The value of a flag, which holds its default. -/
def value (f : FlagSpec) : Except BuildError Value :=
  match f.kind with
  | .string => f.scalarValue .string
  | .int => f.scalarValue .int64
  | .uint => f.scalarValue .uint64
  | .float => f.scalarValue .float
  | .bool =>
    match f.default with
    | none => .ok (.ofBool false)
    | some raw =>
      match boolLiteral? raw with
      | some b => .ok (.ofBool b)
      | none => f.invalid raw .notABoolean
  | .list => .ok (.ofDefaults .string false (f.defaults.map .string))
  | .choice =>
    if f.choices.isEmpty then f.invalid "" .noChoices
    else match f.default with
      | none => .ok (.ofChoices f.choices)
      | some raw =>
        match Value.ofChoicesAt f.choices raw with
        | .ok v => .ok v
        | .error problem => f.invalid raw (.refused problem)

/-- A set after registering the flag. -/
def register (f : FlagSpec) (s : FlagSet) : Except BuildError FlagSet :=
  match f.value with
  | .error e => .error e
  | .ok value =>
    match s.add { names := f.names, usage := f.usage, placeholder := f.placeholder, value } with
    | .ok s => .ok s
    | .error cause => .error (.unregistered cause)

end FlagSpec

namespace Manifest

/-- The name of a set whose manifest gives none. -/
def unnamed : String := "flagtier"

/-- The set that a manifest describes, before its flags are registered. -/
def emptySet (m : Manifest) : FlagSet :=
  { name := if m.name = "" then unnamed else m.name, compat := m.compat }

/-- The set that a manifest describes. -/
def build (m : Manifest) : Except BuildError FlagSet :=
  m.flags.foldlM (fun s f => f.register s) m.emptySet

end Manifest

end LayeredFlags
