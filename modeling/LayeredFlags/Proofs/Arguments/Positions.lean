import LayeredFlags.Proofs.Arguments.Plan
import LayeredFlags.Proofs.Forest.History

/-!
# Positions

Whether an argument is read in flag position depends on all arguments before it: a flag may take
the argument behind it as its value, and a switch does so if that is a literal of truth.  A reading
is followed here token by token, up to the place where it halts: at the end of the list, at an
argument that ends the flags, or at a token that fails.
-/

namespace LayeredFlags

/-! ## Arguments that end the flags -/

/-- The argument ends the flags and is dropped. -/
def IsTerminator (arg : String) : Prop := arg = "-" ∨ arg = "--"

instance (arg : String) : Decidable (IsTerminator arg) :=
  inferInstanceAs (Decidable (_ ∨ _))

/-- In flag position, the argument ends the flags. -/
def EndsFlags (arg : String) : Prop := arg.toList.head? ≠ some '-' ∨ IsTerminator arg

instance (arg : String) : Decidable (EndsFlags arg) :=
  inferInstanceAs (Decidable (_ ∨ _))

/-- What is left over where the flags end at an argument with others behind it. -/
def leftoversFrom (arg : String) (more : List String) : List String :=
  if IsTerminator arg then more else arg :: more

namespace ArgToken

variable {compat : Bool} {arg : String}

theorem ofArg_of_isTerminator (h : IsTerminator arg) : ofArg compat arg = .terminator := by
  obtain rfl | rfl := h <;> rfl

theorem ofArg_of_head?_ne (h : arg.toList.head? ≠ some '-') : ofArg compat arg = .positional := by
  have hdash (body : List Char) : arg.toList ≠ '-' :: body := by
    intro harg
    exact h (congrArg List.head? harg)
  unfold ofArg
  split
  next harg => exact absurd harg (hdash _)
  next harg => exact absurd harg (hdash _)
  next harg => exact absurd harg (hdash _)
  next harg => exact absurd harg (hdash _)
  next => rfl

theorem exists_flag_of_not_endsFlags (h : ¬ EndsFlags arg) :
    ∃ token, ofArg compat arg = .flag token := by
  obtain ⟨hhead, hterminator⟩ := not_or.1 h
  unfold ofArg
  split
  next harg => exact absurd (.inl (String.toList_inj.1 harg)) hterminator
  next harg => exact absurd (.inr (String.toList_inj.1 harg)) hterminator
  next => exact ⟨_, rfl⟩
  next => exact ⟨_, rfl⟩
  next hdash =>
    cases harg : arg.toList with
    | nil => exact absurd (by simp [harg]) hhead
    | cons c body =>
      obtain rfl : c = '-' := by simpa [harg] using hhead
      exact absurd harg (hdash body)

end ArgToken

namespace Chain

variable {c d : Chain} {args rest tail more : List String} {arg t : String}

theorem readArgs_of_endsFlags (h : EndsFlags t) (more : List String) :
    c.readArgs (t :: more) = ⟨c, .ok (leftoversFrom t more)⟩ := by
  unfold readArgs leftoversFrom
  by_cases ht : IsTerminator t
  · rw [if_pos ht, ArgToken.ofArg_of_isTerminator ht]
  · rw [if_neg ht, ArgToken.ofArg_of_head?_ne (h.resolve_right ht)]

/-! ## One token -/

/-- A token is carried out without failure.  The argument behind it is taken along or stays. -/
inductive Takes (c : Chain) : List String → Chain → List String → Prop
  | alone {arg : String} {rest : List String} {token : FlagToken} {d : Chain}
      (htoken : ArgToken.ofArg c.own.compat arg = .flag token)
      (hrun : c.runFlag rest.head? token = ⟨d, .ok false⟩) : Takes c (arg :: rest) d rest
  | withNext {arg next : String} {more : List String} {token : FlagToken} {d : Chain}
      (htoken : ArgToken.ofArg c.own.compat arg = .flag token)
      (hrun : c.runFlag (some next) token = ⟨d, .ok true⟩) : Takes c (arg :: next :: more) d more

theorem readArgs_of_takes (h : c.Takes args d rest) : c.readArgs args = d.readArgs rest := by
  cases h with
  | alone htoken hrun => simp only [readArgs, htoken, hrun]
  | withNext htoken hrun => simp only [readArgs, htoken, List.head?_cons, hrun]

theorem exists_next_of_planShort {next : Option String} {letters : List Char}
    (h : (c.planShort next letters).outcome = .ok true) :
    ∃ value earlier id, next = some value ∧
      (c.planShort next letters).assignments = earlier ++ [⟨id, value⟩] := by
  induction letters with
  | nil => cases h
  | cons letter letters ih =>
    obtain ⟨-, hplan⟩ | ⟨id, -, hplan | ⟨raw, takesNext, htaken, hplan⟩⟩ | hplan :=
      c.planShort_cases next letter letters <;> rw [hplan] at h ⊢
    · cases h
    · obtain ⟨value, earlier, id', hnext, has⟩ := ih h
      exact ⟨value, ⟨id, "true"⟩ :: earlier, id', hnext, congrArg (List.cons _) has⟩
    · exact ⟨raw, [], id, htaken (Except.ok.inj h), rfl⟩
    · cases h

/-- A token that takes the next argument assigns it, behind everything else that it assigns. -/
theorem exists_next_of_planFlag {next : Option String} {token : FlagToken}
    (h : (c.planFlag next token).outcome = .ok true) :
    ∃ value earlier id, next = some value ∧
      (c.planFlag next token).assignments = earlier ++ [⟨id, value⟩] := by
  cases token with
  | short letters => exact exists_next_of_planShort h
  | long dashes name explicit =>
    obtain ⟨-, hplan⟩ | ⟨id, raw, takesNext, -, htaken, hplan⟩ | hplan :=
      c.planLong_cases dashes name explicit next <;> rw [planFlag, hplan] at h ⊢
    · cases h
    · exact ⟨raw, [], id, htaken (Except.ok.inj h), rfl⟩
    · cases h

/-- The argument that a token takes along is the value of a flag of the chain: the last thing that
the token assigns. -/
theorem assignAll_of_takesNext {next : Option String} {token : FlagToken}
    (h : c.runFlag next token = ⟨d, .ok true⟩) :
    ∃ value earlier id f, next = some value ∧ c.flagAt? id = some f ∧
      assignAll .args (earlier ++ [⟨id, value⟩]) c = ⟨d, none⟩ := by
  rw [runFlag_eq_carryOut] at h
  cases hfailure : (assignAll .args (c.planFlag next token).assignments c).failure with
  | some e =>
    rw [ArgPlan.carryOut_of_some hfailure] at h
    cases h
  | none =>
    rw [ArgPlan.carryOut_of_none hfailure] at h
    obtain ⟨hd, hout⟩ := ArgReading.mk.inj h
    obtain ⟨value, earlier, id, hnext, has⟩ := exists_next_of_planFlag hout
    have hmem : ⟨id, value⟩ ∈ (c.planFlag next token).assignments := by simp [has]
    obtain ⟨f, hf⟩ := hasPlaces_planFlag c next token _ hmem
    refine ⟨value, earlier, id, f, hnext, hf, ?_⟩
    rw [← has, ← hd, Attempt.mk_of_none hfailure]

/-! ## Many tokens -/

/-- Tokens are carried out from the first argument on.  What is behind them comes next, in flag
position. -/
inductive Reads : Chain → List String → Chain → List String → Prop
  | here (c : Chain) (args : List String) : Reads c args c args
  | token {c d e : Chain} {args rest tail : List String} (htakes : c.Takes args d rest)
      (hreads : Reads d rest e tail) : Reads c args e tail

theorem readArgs_of_reads (h : c.Reads args d rest) : c.readArgs args = d.readArgs rest := by
  induction h with
  | here c args => rfl
  | token htakes _ ih => exact (readArgs_of_takes htakes).trans ih

/-- A token looks at one argument behind it at most, so the others may be exchanged. -/
theorem takes_exchange (h : c.Takes args d rest) :
    ∃ taken, args = taken ++ rest ∧
      ∀ rest', rest'.head? = rest.head? → c.Takes (taken ++ rest') d rest' := by
  cases h with
  | @alone arg _ _ _ htoken hrun =>
    exact ⟨[arg], rfl, fun rest' hhead => .alone htoken (hhead ▸ hrun)⟩
  | @withNext arg next _ _ _ htoken hrun =>
    exact ⟨[arg, next], rfl, fun rest' _ => .withNext htoken hrun⟩

/-- Behind the next argument in flag position, the arguments do not matter to what was read. -/
theorem reads_exchange (h : c.Reads args d rest) :
    ∃ front, args = front ++ rest ∧
      ∀ rest', rest'.head? = rest.head? → c.Reads (front ++ rest') d rest' := by
  induction h with
  | here c args => exact ⟨[], rfl, fun rest' _ => .here c rest'⟩
  | @token c d e args rest tail htakes _ ih =>
    obtain ⟨front, rfl, hfront⟩ := ih
    obtain ⟨taken, rfl, htaken⟩ := takes_exchange htakes
    refine ⟨taken ++ front, (List.append_assoc ..).symm, fun tail' hhead => ?_⟩
    have hhead' : (front ++ tail').head? = (front ++ tail).head? := by
      rw [List.head?_append, List.head?_append, hhead]
    rw [List.append_assoc]
    exact .token (htaken _ hhead') (hfront tail' hhead)

/-! ## What became of the arguments -/

/-- The argument before some others was read as a flag. -/
def ReadAsFlag (c : Chain) (args : List String) (t : String) (back : List String) : Prop :=
  ∃ b d rest, c.Reads args b (t :: back) ∧ b.Takes (t :: back) d rest

/-- The argument before some others was read as the value of a flag, which the argument before it
takes along. -/
def ReadAsValue (c : Chain) (args : List String) (t : String) (back : List String) : Prop :=
  ∃ b d arg, c.Reads args b (arg :: t :: back) ∧ b.Takes (arg :: t :: back) d back ∧
    ∃ earlier id f, b.flagAt? id = some f ∧ assignAll .args (earlier ++ [⟨id, t⟩]) b = ⟨d, none⟩

/-- Every argument before the place that was reached was read as a flag or as a value. -/
theorem readAs_of_reads (h : c.Reads args d tail) {back : List String} (hs : t :: back <:+ args) :
    t :: back <:+ tail ∨ c.ReadAsFlag args t back ∨ c.ReadAsValue args t back := by
  induction h with
  | here c args => exact .inl hs
  | @token c d e args rest tail htakes _ ih =>
    have hbehind (hs : t :: back <:+ rest) :
        t :: back <:+ tail ∨ c.ReadAsFlag args t back ∨ c.ReadAsValue args t back := by
      obtain h | ⟨b, b', rest', hreads, h⟩ | ⟨b, b', arg, hreads, h⟩ := ih hs
      · exact .inl h
      · exact .inr (.inl ⟨b, b', rest', .token htakes hreads, h⟩)
      · exact .inr (.inr ⟨b, b', arg, .token htakes hreads, h⟩)
    -- the token is the first argument, and the second one may be its value
    cases htakes with
    | alone htoken hrun =>
      rcases List.suffix_cons_iff.1 hs with heq | hs
      · obtain ⟨rfl, rfl⟩ := List.cons.inj heq
        exact .inr (.inl ⟨c, _, _, .here c _, .alone htoken hrun⟩)
      · exact hbehind hs
    | withNext htoken hrun =>
      rcases List.suffix_cons_iff.1 hs with heq | hs
      · obtain ⟨rfl, rfl⟩ := List.cons.inj heq
        exact .inr (.inl ⟨c, _, _, .here c _, .withNext htoken hrun⟩)
      · rcases List.suffix_cons_iff.1 hs with heq | hs
        · obtain ⟨rfl, rfl⟩ := List.cons.inj heq
          obtain ⟨value, earlier, id, f, hvalue, hassign⟩ := assignAll_of_takesNext hrun
          obtain rfl := Option.some.inj hvalue
          exact .inr (.inr ⟨c, _, _, .here c _, .withNext htoken hrun, earlier, id, f, hassign⟩)
        · exact hbehind hs

/-! ## What is kept -/

theorem shape_runFlag (c : Chain) (next : Option String) (token : FlagToken) :
    (c.runFlag next token).chain.shape = c.shape := by
  rw [runFlag_eq_carryOut, ArgPlan.chain_carryOut]
  exact shape_assignAll .args _ c

theorem shape_of_reads (h : c.Reads args d rest) : d.shape = c.shape := by
  induction h with
  | here c args => rfl
  | @token c d e args rest tail htakes _ ih =>
    have hd : d.shape = c.shape := by
      cases htakes with
      | alone htoken hrun => rw [← shape_runFlag c, hrun]
      | withNext htoken hrun => rw [← shape_runFlag c, hrun]
    exact ih.trans hd

/-! ## Where a reading halts -/

/-- A place at which a reading halts, and what comes of it there. -/
inductive Halts (c : Chain) : List String → ArgReading (List String) → Prop
  | atEnd : Halts c [] ⟨c, .ok []⟩
  | atStop {t : String} (h : EndsFlags t) (more : List String) :
      Halts c (t :: more) ⟨c, .ok (leftoversFrom t more)⟩
  | failing {arg : String} {rest : List String} {token : FlagToken} {d : Chain} {e : FlagError}
      (htoken : ArgToken.ofArg c.own.compat arg = .flag token)
      (hrun : c.runFlag rest.head? token = ⟨d, .error e⟩) : Halts c (arg :: rest) ⟨d, .error e⟩

theorem readArgs_of_failing {token : FlagToken} {e : FlagError}
    (htoken : ArgToken.ofArg c.own.compat arg = .flag token)
    (hrun : c.runFlag rest.head? token = ⟨d, .error e⟩) :
    c.readArgs (arg :: rest) = ⟨d, .error e⟩ := by
  simp only [readArgs, htoken, hrun]

/-- Every reading gets to a place where it halts. -/
theorem exists_halts : ∀ (args : List String) (c : Chain),
    ∃ d tail, c.Reads args d tail ∧ d.Halts tail (c.readArgs args)
  | [], c => ⟨c, [], .here c [], .atEnd⟩
  | arg :: rest, c => by
    by_cases hends : EndsFlags arg
    · rw [readArgs_of_endsFlags hends]
      exact ⟨c, arg :: rest, .here c _, .atStop hends rest⟩
    obtain ⟨token, htoken⟩ := ArgToken.exists_flag_of_not_endsFlags hends
    rcases hrun : c.runFlag rest.head? token with ⟨d, e | _ | _⟩
    · rw [readArgs_of_failing htoken hrun]
      exact ⟨c, arg :: rest, .here c _, .failing htoken hrun⟩
    · have htakes : c.Takes (arg :: rest) d rest := .alone htoken hrun
      obtain ⟨b, tail, hreads, hhalts⟩ := exists_halts rest d
      rw [readArgs_of_takes htakes]
      exact ⟨b, tail, .token htakes hreads, hhalts⟩
    · obtain ⟨next, -, -, -, hnext, -⟩ := assignAll_of_takesNext hrun
      obtain ⟨more, rfl⟩ := List.head?_eq_some_iff.1 hnext
      have htakes : c.Takes (arg :: next :: more) d more := .withNext htoken hrun
      obtain ⟨b, tail, hreads, hhalts⟩ := exists_halts more d
      rw [readArgs_of_takes htakes]
      exact ⟨b, tail, .token htakes hreads, hhalts⟩

/-! ## Leftovers -/

/-- Where an argument list is read without failure, the leftovers are its end.

If an argument in flag position ended the flags, it is left over unless it is a terminator, and
everything behind it is left over; with other arguments behind it, the chain becomes the same and
these are left over.  If there was no such argument, nothing is left over, and every argument was
read as a flag or as the value of one. -/
theorem leftovers_of_readArgs {leftovers : List String}
    (h : (c.readArgs args).outcome = .ok leftovers) :
    leftovers <:+ args ∧
    (∀ d t more, c.Reads args d (t :: more) → EndsFlags t →
      (c.readArgs args).chain = d ∧
      leftovers = leftoversFrom t more ∧
      ∃ front, args = front ++ t :: more ∧ ∀ other,
        c.Reads (front ++ t :: other) d (t :: other) ∧
        c.readArgs (front ++ t :: other) = ⟨d, .ok (leftoversFrom t other)⟩) ∧
    ((∀ d t more, c.Reads args d (t :: more) → ¬ EndsFlags t) →
      leftovers = [] ∧ c.Reads args (c.readArgs args).chain [] ∧
      ∀ t back, t :: back <:+ args → c.ReadAsFlag args t back ∨ c.ReadAsValue args t back) := by
  refine ⟨suffix_of_readArgs h, fun d t more hreads hends => ?_, fun hnone => ?_⟩
  · have hread := (readArgs_of_reads hreads).trans (readArgs_of_endsFlags hends more)
    obtain ⟨front, hargs, hfront⟩ := reads_exchange hreads
    rw [hread] at h ⊢
    refine ⟨rfl, (Except.ok.inj h).symm, front, hargs, fun other => ?_⟩
    have hother : c.Reads (front ++ t :: other) d (t :: other) := hfront (t :: other) rfl
    exact ⟨hother, (readArgs_of_reads hother).trans (readArgs_of_endsFlags hends other)⟩
  · obtain ⟨d, tail, hreads, hhalts⟩ := exists_halts args c
    generalize hr : c.readArgs args = r at h hhalts ⊢
    cases hhalts with
    | atEnd =>
      refine ⟨(Except.ok.inj h).symm, hreads, fun t back hs => ?_⟩
      exact (readAs_of_reads hreads hs).resolve_left fun hnil => by simp at hnil
    | atStop hends more => exact absurd hends (hnone d _ more hreads)
    | failing htoken hrun => cases h

/-- The first `--` is the value of a flag, so it is `-` that ends the flags. -/
theorem leftovers_of_readArgs_sample :
    let args := ["--verbose", "true", "--tag", "--", "-q", "-", "x", "--tag"]
    (grownChain.readArgs args).outcome = .ok ["x", "--tag"] ∧
      ∃ d, grownChain.Reads args d ["-", "x", "--tag"] ∧ EndsFlags "-" ∧
        (grownChain.readArgs args).chain = d ∧
        ∀ other, grownChain.readArgs
          ("--verbose" :: "true" :: "--tag" :: "--" :: "-q" :: "-" :: other) = ⟨d, .ok other⟩ := by
  intro args
  have h : (grownChain.readArgs args).outcome = .ok ["x", "--tag"] := by decide +kernel
  have hends : EndsFlags "-" := by decide
  have hreads : grownChain.Reads args _ ["-", "x", "--tag"] :=
    .token (@Takes.withNext _ "--verbose" "true" _ (.long "--" "verbose" none) _ rfl rfl) <|
    .token (@Takes.withNext _ "--tag" "--" _ (.long "--" "tag" none) _ rfl rfl) <|
    .token (@Takes.alone _ "-q" _ (.short ['q']) _ rfl rfl) <|
    .here _ _
  obtain ⟨hchain, -, front, hargs, hfront⟩ :=
    (leftovers_of_readArgs h).2.1 _ "-" ["x", "--tag"] hreads hends
  have hfive : ["--verbose", "true", "--tag", "--", "-q"] ++ ["-", "x", "--tag"] =
      front ++ ["-", "x", "--tag"] := hargs
  obtain rfl := List.append_cancel_right hfive
  exact ⟨h, _, hreads, hends, hchain, fun other => (hfront other).2⟩

end Chain

end LayeredFlags
