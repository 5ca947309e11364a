import LayeredFlags.Value.Collection
import LayeredFlags.Value.Datum

/-!
# Values behind flags

A value is set from strings and rendered as one.  Scalars, switches and choices overwrite; a list
accumulates, its defaults standing in until the first element is set.  A value of the user's own
kind brings its rules along.  An assignment that is refused leaves no new value, so the old one
stays as it is.
-/

namespace LayeredFlags

/-- The truth values accepted on a command line. -/
def boolLiteral? (raw : String) : Option Bool :=
  if raw ∈ ["1", "t", "T", "true", "TRUE", "True"] then some true
  else if raw ∈ ["0", "f", "F", "false", "FALSE", "False"] then some false
  else none

/-- The rules of a value of the user's own kind, over a state held as text. -/
structure CustomRules where
  /-- The flag may appear without a value. -/
  isBool : Bool
  /-- The state after setting a string in a state. -/
  assign : (raw state : String) → Except String String
  /-- The state after a reset, where the kind can be reset. -/
  restore : Option (String → Except String String)
  /-- The rendering of a state. -/
  render : String → String

/-- A settable value. -/
inductive Value where
  /-- One element, overwritten by each assignment. -/
  | scalar (type : ScalarType) (current initial : Datum)
  /-- Elements collected since the last reset (none before the first assignment), with defaults
  that stand in until then; in unique mode a repeated element is dropped. -/
  | list (type : ScalarType) (unique : Bool) (defaults : List Datum)
      (collected : Option (List Datum))
  /-- A truth value; its flag may appear without a value. -/
  | switch (current initial : Bool)
  /-- One of a fixed list of choices. -/
  | choice (choices : List String) (current initial : String)
  /-- A value of the user's own kind. -/
  | custom (rules : CustomRules) (state : String)

namespace Value

/-! ## Construction -/

/-- A scalar that holds its default. -/
def ofDefault (type : ScalarType) (d : Datum) : Value :=
  .scalar type d d

/-- A switch in its default state. -/
def ofBool (b : Bool) : Value :=
  .switch b b

/-- The list of a collection. -/
def ofCollection (type : ScalarType) (c : Collection Datum) : Value :=
  .list type c.unique c.defaults c.collected

/-- A list that reports its defaults. -/
def ofDefaults (type : ScalarType) (unique : Bool) (defaults : List Datum) : Value :=
  .ofCollection type { unique, defaults }

/-- A choice that starts from the first one. -/
def ofChoices (choices : List String) : Value :=
  .choice choices (choices.headD "") (choices.headD "")

/-- A choice that starts from `d`, which must be one of the choices. -/
def ofChoicesAt (choices : List String) (d : String) : Except ValueProblem Value :=
  if d ∈ choices then .ok (.choice choices d d) else .error (.notAChoice choices)

/-! ## Operations -/

/-- The value after setting a string. -/
def assign (raw : String) : Value → Except ValueProblem Value
  | .scalar type _ initial => (type.read raw).map (.scalar type · initial)
  | .list type unique defaults collected =>
    (Collection.assign type.read Datum.same raw { unique, defaults, collected }).map
      (ofCollection type)
  | .switch _ initial =>
    match boolLiteral? raw with
    | some b => .ok (.switch b initial)
    | none => .error (.notBoolLiteral raw)
  | .choice choices _ initial =>
    if raw ∈ choices then .ok (.choice choices raw initial) else .error (.notAChoice choices)
  | .custom rules state =>
    match rules.assign raw state with
    | .ok state => .ok (.custom rules state)
    | .error reason => .error (.custom reason)

/-- The text of a truth value. -/
def boolText (b : Bool) : String :=
  if b then "true" else "false"

/-- The rendering of a value. -/
def text : Value → String
  | .scalar _ current _ => current.text
  | .list _ unique defaults collected =>
    let c : Collection Datum := { unique, defaults, collected }
    "[" ++ ", ".intercalate (c.values.map Datum.text) ++ "]"
  | .switch current _ => boolText current
  | .choice _ current _ => current
  | .custom rules state => rules.render state

/-- The value back in its initial state, for the kinds that can be reset. -/
def restore? : Value → Option (Except ValueProblem Value)
  | .scalar type _ initial => some (.ok (.scalar type initial initial))
  | .list type unique defaults collected =>
    let c : Collection Datum := { unique, defaults, collected }
    some (.ok (ofCollection type c.restored))
  | .switch _ initial => some (.ok (.switch initial initial))
  | .choice choices _ initial => some (.ok (.choice choices initial initial))
  | .custom rules state =>
    rules.restore.map fun restore =>
      match restore state with
      | .ok state => .ok (.custom rules state)
      | .error reason => .error (.custom reason)

/-- The flag of the value may appear without a value. -/
def isBool : Value → Bool
  | .switch .. => true
  | .custom rules _ => rules.isBool
  | _ => false

/-- What an assignment of a string makes of a value, kind by kind. -/
inductive Assigned (raw : String) : Value → Value → Prop
  | scalar {type : ScalarType} {current initial d : Datum} (h : type.read raw = .ok d) :
      Assigned raw (.scalar type current initial) (.scalar type d initial)
  | list {type : ScalarType} {c : Collection Datum} {d : Datum} (h : type.read raw = .ok d) :
      Assigned raw (ofCollection type c) (ofCollection type (c.push Datum.same d))
  | switch {current initial b : Bool} (h : boolLiteral? raw = some b) :
      Assigned raw (.switch current initial) (.switch b initial)
  | choice {choices : List String} {current initial : String} (h : raw ∈ choices) :
      Assigned raw (.choice choices current initial) (.choice choices raw initial)
  | custom {rules : CustomRules} {state state' : String} (h : rules.assign raw state = .ok state') :
      Assigned raw (.custom rules state) (.custom rules state')

theorem assigned_of_assign {raw : String} {v w : Value} (h : v.assign raw = .ok w) :
    Assigned raw v w := by
  cases v with
  | scalar type current initial =>
    simp only [assign] at h
    cases hr : type.read raw <;> simp [hr, Except.map] at h
    exact h ▸ .scalar hr
  | list type unique defaults collected =>
    simp only [assign] at h
    cases hr : type.read raw <;> simp [Collection.assign, hr, Except.map] at h
    exact h ▸ .list (c := { unique, defaults, collected }) hr
  | switch current initial =>
    simp only [assign] at h
    split at h
    · next b hb => exact Except.ok.inj h ▸ .switch hb
    · cases h
  | choice choices current initial =>
    simp only [assign] at h
    split at h
    · next hraw => exact Except.ok.inj h ▸ .choice hraw
    · cases h
  | custom rules state =>
    simp only [assign] at h
    split at h
    · next state' hstate => exact Except.ok.inj h ▸ .custom hstate
    · cases h

/-- An assignment does not change what kind of flag the value makes. -/
theorem isBool_of_assign {raw : String} {v w : Value} (h : v.assign raw = .ok w) :
    w.isBool = v.isBool := by
  cases assigned_of_assign h <;> rfl

/-- Nor does a return to the initial state. -/
theorem isBool_of_restore? {v w : Value} (h : v.restore? = some (.ok w)) : w.isBool = v.isBool := by
  cases v with
  | custom rules state =>
    simp only [restore?, Option.map_eq_some_iff] at h
    obtain ⟨restore, -, h⟩ := h
    split at h <;> simp at h
    subst h; rfl
  | _ =>
    simp only [restore?, Option.some.injEq, Except.ok.injEq] at h
    subst h; rfl

end Value

end LayeredFlags
