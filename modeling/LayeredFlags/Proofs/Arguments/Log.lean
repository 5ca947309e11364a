import LayeredFlags.Arguments.Reading

/-!
# Logs of readings

Reading an argument list can be followed with a log: which assignments were made, in which order,
and which one was refused, if one was.  The log changes nothing: without it the reading is what it
is.
-/

namespace LayeredFlags

/-- A reading with the assignments made in its course, and the refused one that ended it. -/
structure ArgLog (α : Type) where
  made : List Assignment
  refused : Option Assignment
  reading : ArgReading α

namespace ArgLog

variable {α : Type}

/-- A reading that ends without an assignment. -/
def ending (c : Chain) (outcome : Except FlagError α) : ArgLog α :=
  ⟨[], none, ⟨c, outcome⟩⟩

/-- The log behind some earlier assignments. -/
def behind (earlier : List Assignment) (l : ArgLog α) : ArgLog α :=
  { l with made := earlier ++ l.made }

/-- One assignment, and what comes behind it unless it is refused. -/
def assigning (c : Chain) (a : Assignment) (next : Chain → ArgLog α) : ArgLog α :=
  match c.assign a.id a.raw .args with
  | ⟨d, none⟩ => (next d).behind [a]
  | ⟨d, some e⟩ => ⟨[], some a, ⟨d, .error e⟩⟩

@[simp] theorem reading_behind (earlier : List Assignment) (l : ArgLog α) :
    (l.behind earlier).reading = l.reading := rfl

theorem behind_behind (xs ys : List Assignment) (l : ArgLog α) :
    (l.behind ys).behind xs = l.behind (xs ++ ys) := by
  simp only [behind, List.append_assoc]

theorem assigning_of_ok {c d : Chain} {a : Assignment} (h : c.assign a.id a.raw .args = ⟨d, none⟩)
    (next : Chain → ArgLog α) : assigning c a next = (next d).behind [a] := by
  simp only [assigning, h]

theorem assigning_of_error {c d : Chain} {a : Assignment} {e : FlagError}
    (h : c.assign a.id a.raw .args = ⟨d, some e⟩) (next : Chain → ArgLog α) :
    assigning c a next = ⟨[], some a, d, .error e⟩ := by
  simp only [assigning, h]

end ArgLog

namespace Chain

/-! ## Readings with a log -/

/-- Assigns a string that a token holds, or that it takes from the next argument. -/
def logAccept (c : Chain) (id : FlagId) (raw : String) (takesNext : Bool) : ArgLog Bool :=
  .assigning c ⟨id, raw⟩ (.ending · (.ok takesNext))

/-- Carries out a long flag. -/
def logLong (c : Chain) (dashes name : String) (explicit next : Option String) : ArgLog Bool :=
  match c.locateLong name with
  | none => .ending c (.error (c.unclaimedLong dashes name))
  | some id =>
    if c.isBoolAt id then
      match explicit with
      | some value => c.logAccept id (if value = "" then "true" else value) false
      | none =>
        match next.filter fun raw => (boolLiteral? raw).isSome with
        | some literal => c.logAccept id literal true
        | none => c.logAccept id "true" false
    else
      match explicit, next with
      | some value, _ => c.logAccept id value false
      | none, some value => c.logAccept id value true
      | none, none => .ending c (.error (.missingValue (dashes ++ name)))

/-- Carries out a bundle of short flags. -/
def logShort (next : Option String) : List Char → Chain → ArgLog Bool
  | [], c => .ending c (.ok false)
  | letter :: rest, c =>
    match c.locateShort letter with
    | none => .ending c (.error (unclaimedShort letter))
    | some id =>
      if c.isBoolAt id then .assigning c ⟨id, "true"⟩ (logShort next rest)
      else
        match rest, next with
        | _ :: _, _ => c.logAccept id (String.ofList rest) false
        | [], some value => c.logAccept id value true
        | [], none => .ending c (.error (.missingValue (FlagNames.dashedShort letter)))

/-- Carries out a token that names flags. -/
def logFlag (c : Chain) (next : Option String) : FlagToken → ArgLog Bool
  | .long dashes name explicit => c.logLong dashes name explicit next
  | .short letters => c.logShort next letters

/-- Reads an argument list. -/
def logArgs : List String → Chain → ArgLog (List String)
  | [], c => .ending c (.ok [])
  | arg :: rest, c =>
    match ArgToken.ofArg c.own.compat arg with
    | .positional => .ending c (.ok (arg :: rest))
    | .terminator => .ending c (.ok rest)
    | .flag token =>
      match c.logFlag rest.head? token with
      | ⟨made, refused, d, .error e⟩ => ⟨made, refused, d, .error e⟩
      | ⟨made, _, d, .ok false⟩ => (logArgs rest d).behind made
      | ⟨made, _, d, .ok true⟩ =>
        match rest with
        | [] => (ArgLog.ending d (.ok [])).behind made
        | _ :: more => (logArgs more d).behind made

/-! ## Without the log -/

theorem reading_logAccept (c : Chain) (id : FlagId) (raw : String) (takesNext : Bool) :
    (c.logAccept id raw takesNext).reading = c.accept id raw takesNext := by
  unfold logAccept ArgLog.assigning accept
  obtain ⟨d, _ | e⟩ := c.assign id raw .args <;> rfl

theorem reading_logLong (c : Chain) (dashes name : String) (explicit next : Option String) :
    (c.logLong dashes name explicit next).reading = c.runLong dashes name explicit next := by
  unfold logLong runLong
  simp only [← reading_logAccept]
  cases c.locateLong name with
  | none => rfl
  | some id =>
    by_cases hb : c.isBoolAt id = true
    · simp only [if_pos hb]
      cases explicit with
      | some value => rfl
      | none => cases next.filter fun raw => (boolLiteral? raw).isSome <;> rfl
    · simp only [if_neg hb]
      cases explicit with
      | some value => rfl
      | none => cases next <;> rfl

theorem reading_logShort (next : Option String) (letters : List Char) (c : Chain) :
    (c.logShort next letters).reading = runShort next letters c := by
  induction letters generalizing c with
  | nil => rfl
  | cons letter rest ih =>
    unfold logShort runShort
    simp only [← reading_logAccept]
    cases c.locateShort letter with
    | none => rfl
    | some id =>
      by_cases hb : c.isBoolAt id = true
      · simp only [if_pos hb, ArgLog.assigning]
        obtain ⟨d, _ | e⟩ := c.assign id "true" .args
        · exact ih d
        · rfl
      · simp only [if_neg hb]
        cases rest with
        | cons letter' rest => rfl
        | nil => cases next <;> rfl

theorem reading_logFlag (c : Chain) (next : Option String) (token : FlagToken) :
    (c.logFlag next token).reading = c.runFlag next token := by
  cases token with
  | long dashes name explicit => exact reading_logLong c dashes name explicit next
  | short letters => exact reading_logShort next letters c

/-- Reading with a log reads what is read without one. -/
theorem reading_logArgs : ∀ (args : List String) (c : Chain),
    (c.logArgs args).reading = c.readArgs args
  | [], _ => rfl
  | arg :: rest, c => by
    unfold logArgs readArgs
    cases ArgToken.ofArg c.own.compat arg with
    | positional => rfl
    | terminator => rfl
    | flag token =>
      simp only [← reading_logFlag]
      obtain ⟨made, refused, d, outcome⟩ := c.logFlag rest.head? token
      cases outcome with
      | error e => rfl
      | ok takesNext =>
        cases takesNext with
        | false => exact reading_logArgs rest d
        | true =>
          cases rest with
          | nil => rfl
          | cons _ more => exact reading_logArgs more d

end Chain

end LayeredFlags
