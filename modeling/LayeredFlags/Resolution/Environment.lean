import LayeredFlags.Keys.Index
import LayeredFlags.Resolution.Options
import LayeredFlags.Text.Separated

/-!
# The environment tier

Every flag that is not set takes the first of its keys that the environment binds to a text that
is not empty.  All variables are read before the first assignment, so one that holds no text
fails the parse with nothing assigned.
-/

namespace LayeredFlags

/-- A variable for the flag at a place. -/
structure EnvBinding where
  id : FlagId
  key : String
  value : String
  deriving DecidableEq, Repr

/-- The first of the keys with a value that is not empty, and that value. -/
def consultEnv (env : String → Option (List UInt8)) (flag : String) :
    List String → Except FlagError (Option (String × String))
  | [] => .ok none
  | key :: rest =>
    match env key with
    | none => consultEnv env flag rest
    | some bytes =>
      match Text.Utf8.decode? bytes with
      | none => .error (.valueRejected flag (Text.Utf8.decodeLossy bytes) (.notText key))
      | some value => if value = "" then consultEnv env flag rest else .ok (some (key, value))

namespace Chain

/-- The variables that the given flags take. -/
def bindingsOf (x : KeyIndex) (env : String → Option (List UInt8)) :
    List (FlagId × Flag) → Except FlagError (List EnvBinding)
  | [] => .ok []
  | (id, f) :: rest =>
    match consultEnv env f.display (x.keysAt id) with
    | .error e => .error e
    | .ok found =>
      (bindingsOf x env rest).map fun bindings =>
        match found with
        | some (key, value) => ⟨id, key, value⟩ :: bindings
        | none => bindings

/-- The variables that the unset flags of the chain take. -/
def envBindings (c : Chain) (x : KeyIndex) (env : String → Option (List UInt8)) :
    Except FlagError (List EnvBinding) :=
  bindingsOf x env (c.located.filter fun (_, f) => !f.isSet)

/-- The assignments of a variable: one, or one for each of its elements. -/
def envAssignments (split : Option String) (b : EnvBinding) : List Assignment :=
  match split with
  | some sep => (Text.elements b.value sep).map (⟨b.id, ·⟩)
  | none => [⟨b.id, b.value⟩]

/-- The chain after the environment tier. -/
def fillFromEnv (o : ParseOptions) (x : KeyIndex) (c : Chain) : Attempt Chain :=
  if o.envEnabled then
    match x.clash? with
    | some e => ⟨c, some e⟩
    | none =>
      match c.envBindings x o.env with
      | .error e => ⟨c, some e⟩
      | .ok bindings =>
        Attempt.each (fun b c => assignAll (.env b.key) (envAssignments o.envSplit b) c) bindings c
  else ⟨c, none⟩

end Chain

end LayeredFlags
