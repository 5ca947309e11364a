import LayeredFlags.Proofs.Chain.Shape

/-!
# Lists of assignments

Assignments from several tiers, carried out one after another.  If all of them are accepted, every
flag has gone through the assignments to its own place, in their order; and a flag without any
stays what it was, also where an assignment to another flag is refused.
-/

namespace LayeredFlags

/-- An assignment with the tier it comes from. -/
structure TierAssignment extends Assignment where
  origin : Origin
  deriving DecidableEq, Repr

/-- The assignment as one of a tier. -/
def Assignment.ofTier (o : Origin) (a : Assignment) : TierAssignment := ⟨a, o⟩

/-- The places that assignments go to. -/
def places (as : List TierAssignment) : List FlagId := as.map (·.id)

/-- The strings that assignments have for the flag at a place. -/
def rawsAt (id : FlagId) (as : List TierAssignment) : List String :=
  (as.filter (·.id = id)).map (·.raw)

theorem rawsAt_cons (id : FlagId) (a : TierAssignment) (as : List TierAssignment) :
    rawsAt id (a :: as) = if a.id = id then a.raw :: rawsAt id as else rawsAt id as := by
  unfold rawsAt
  rw [List.filter_cons]
  by_cases h : a.id = id
  · rw [if_pos h, if_pos (decide_eq_true h), List.map_cons]
  · rw [if_neg h, if_neg (by simpa using h)]

/-- The value after some strings, unless one of them is refused. -/
def Value.assignEach : List String → Value → Except ValueProblem Value
  | [], v => .ok v
  | raw :: rest, v => (v.assign raw).bind (assignEach rest)

/-- The flag with a value that a tier gave it. -/
def Flag.given (f : Flag) (v : Value) (o : Origin) : Flag :=
  { f with value := v, isSet := true, origin := some o }

/-- The flag after some assignments, unless one of them is refused. -/
def Flag.absorb : List TierAssignment → Flag → Except FlagError Flag
  | [], f => .ok f
  | a :: rest, f => (f.assign a.raw a.origin).bind (absorb rest)

theorem Flag.isSet_of_absorb {as : List TierAssignment} {f g : Flag} (h : f.absorb as = .ok g)
    (hset : f.isSet = true ∨ as ≠ []) : g.isSet = true := by
  induction as generalizing f with
  | nil =>
    cases h
    exact hset.resolve_right (absurd rfl)
  | cons a rest ih =>
    unfold absorb at h
    cases ha : f.assign a.raw a.origin with
    | error e =>
      rw [ha] at h
      cases h
    | ok f₁ =>
      rw [ha] at h
      obtain ⟨v, -, rfl⟩ := Flag.assign_eq_ok_iff.1 ha
      exact ih h (.inl rfl)

/-- Assignments of one tier leave a flag with the value that their strings make and with that
tier. -/
theorem Flag.eq_given_of_absorb {o : Origin} {as : List TierAssignment} {f g : Flag}
    (ho : ∀ a ∈ as, a.origin = o) (hne : as ≠ []) (h : f.absorb as = .ok g) :
    f.value.assignEach (as.map (·.raw)) = .ok g.value ∧ g = f.given g.value o := by
  induction as generalizing f with
  | nil => exact absurd rfl hne
  | cons a rest ih =>
    unfold absorb at h
    cases ha : f.assign a.raw a.origin with
    | error e =>
      rw [ha] at h
      cases h
    | ok f₁ =>
      rw [ha] at h
      obtain ⟨v, hv, rfl⟩ := Flag.assign_eq_ok_iff.1 ha
      rw [List.map_cons, Value.assignEach, hv]
      rw [ho a (List.mem_cons_self ..)] at h
      cases rest with
      | nil =>
        cases h
        exact ⟨rfl, rfl⟩
      | cons b rest =>
        have hrest := fun x hx => ho x (List.mem_cons_of_mem _ hx)
        obtain ⟨hval, hg⟩ := ih hrest (List.cons_ne_nil b rest) h
        exact ⟨hval, hg⟩

namespace Chain

variable {c : Chain} {id : FlagId} {f : Flag}

/-- The chain after assignments, up to the first that is refused. -/
def carryOut (as : List TierAssignment) (c : Chain) : Attempt Chain :=
  Attempt.each (fun a c => c.assign a.id a.raw a.origin) as c

theorem carryOut_cons (a : TierAssignment) (as : List TierAssignment) (c : Chain) :
    carryOut (a :: as) c = (c.assign a.id a.raw a.origin).andThen (carryOut as) := rfl

theorem assignAll_eq_carryOut (o : Origin) (as : List Assignment) (c : Chain) :
    assignAll o as c = carryOut (as.map (·.ofTier o)) c := by
  unfold carryOut
  rw [Attempt.each_map]
  rfl

/-- An assignment that fails does nothing else. -/
theorem assign_of_failure {id : FlagId} {raw : String} {o : Origin} {e : FlagError}
    (h : (c.assign id raw o).failure = some e) : c.assign id raw o = ⟨c, some e⟩ := by
  obtain ⟨-, ha⟩ | ⟨f, g, -, -, ha⟩ | ⟨f, p, -, -, ha⟩ := assign_cases c id raw o <;>
    rw [ha] at h ⊢ <;> cases h <;> rfl

/-- An assignment fails where there is no flag, or where its value refuses the string. -/
theorem failure_assign_cases {id : FlagId} {raw : String} {o : Origin} {e : FlagError}
    (h : (c.assign id raw o).failure = some e) :
    (c.flagAt? id = none ∧ e = .unknownFlag id.text) ∨
      ∃ f problem, c.flagAt? id = some f ∧ f.value.assign raw = .error problem ∧
        e = .valueRejected f.display raw problem := by
  obtain ⟨hnone, ha⟩ | ⟨f, g, -, -, ha⟩ | ⟨f, p, hf, hp, ha⟩ := assign_cases c id raw o <;>
    rw [ha] at h <;> cases h
  · exact .inl ⟨hnone, rfl⟩
  · obtain ⟨problem, hvalue, rfl⟩ := Flag.assign_eq_error_iff.1 hp
    exact .inr ⟨f, problem, hf, hvalue, rfl⟩

/-- A list of assignments is accepted, or one of them fails and the earlier ones are made. -/
theorem assignAll_cases (o : Origin) (as : List Assignment) (c : Chain) :
    (∃ d, assignAll o as c = ⟨d, none⟩) ∨
      ∃ made a todo d e, as = made ++ a :: todo ∧ assignAll o made c = ⟨d, none⟩ ∧
        d.assign a.id a.raw o = ⟨d, some e⟩ := by
  cases h : (assignAll o as c).failure with
  | none => exact .inl ⟨_, (Attempt.mk_of_none h).symm⟩
  | some e =>
    obtain ⟨made, a, todo, has, hmade, ha, -⟩ := Attempt.exists_of_failure_each h
    exact .inr ⟨made, a, todo, _, e, has, (Attempt.mk_of_none hmade).symm, assign_of_failure ha⟩

/-- All assignments are to flags of the chain. -/
def HasPlaces (c : Chain) (as : List Assignment) : Prop :=
  ∀ a ∈ as, ∃ f, c.flagAt? a.id = some f

/-- Behind some assignments the places of the others still have flags. -/
theorem HasPlaces.behind {as made todo : List Assignment} {a : Assignment} (h : c.HasPlaces as)
    (has : as = made ++ a :: todo) (o : Origin) :
    ∃ f, (assignAll o made c).state.flagAt? a.id = some f := by
  obtain ⟨f, hf⟩ := h a (by simp [has])
  obtain ⟨g, hg, -⟩ := exists_flagAt?_of_shape (shape_assignAll o made c).symm hf
  exact ⟨g, hg⟩

/-- Assignments to flags are accepted, or the value of a flag refuses the string of one of them. -/
theorem HasPlaces.assignAll_cases {as : List Assignment} (has : c.HasPlaces as) (o : Origin) :
    (∃ d, assignAll o as c = ⟨d, none⟩) ∨
      ∃ made a todo d f problem, as = made ++ a :: todo ∧ assignAll o made c = ⟨d, none⟩ ∧
        d.flagAt? a.id = some f ∧ f.value.assign a.raw = .error problem ∧
        d.assign a.id a.raw o = ⟨d, some (.valueRejected f.display a.raw problem)⟩ := by
  obtain h | ⟨made, a, todo, d, e, hsplit, hmade, ha⟩ := Chain.assignAll_cases o as c
  · exact .inl h
  · obtain ⟨g, hg⟩ := has.behind hsplit o
    rw [hmade] at hg
    obtain ⟨hnone, -⟩ | ⟨f, problem, hf, hvalue, rfl⟩ :=
      failure_assign_cases (congrArg Attempt.failure ha)
    · rw [hg] at hnone
      cases hnone
    · exact .inr ⟨made, a, todo, d, f, problem, hsplit, hmade, hf, hvalue, ha⟩

theorem shape_carryOut (as : List TierAssignment) (c : Chain) :
    (carryOut as c).state.shape = c.shape :=
  Attempt.each_preserves (P := fun d => d.shape = c.shape)
    (fun a _ d hd => (shape_assign d a.id a.raw a.origin).trans hd) rfl

/-! ## Flag by flag -/

theorem flagAt?_assign_of_ne {id' : FlagId} (h : id' ≠ id) (raw : String) (o : Origin) :
    (c.assign id raw o).state.flagAt? id' = c.flagAt? id' := by
  obtain ⟨-, e⟩ | ⟨f, g, -, -, e⟩ | ⟨f, p, -, -, e⟩ := assign_cases c id raw o <;> rw [e]
  exact flagAt?_replace_of_ne h

theorem flagAt?_carryOut_of_not_mem {as : List TierAssignment} (h : id ∉ places as) :
    (carryOut as c).state.flagAt? id = c.flagAt? id := by
  refine Attempt.each_preserves (P := fun d : Chain => d.flagAt? id = c.flagAt? id) ?_ rfl
  intro a ha d hd
  have hne : id ≠ a.id := by
    rintro rfl
    exact h (List.mem_map_of_mem ha)
  exact (flagAt?_assign_of_ne hne a.raw a.origin).trans hd

theorem absorb_of_carryOut {as : List TierAssignment} (h : (carryOut as c).failure = none)
    (hf : c.flagAt? id = some f) :
    ∃ g, (carryOut as c).state.flagAt? id = some g ∧
      f.absorb (as.filter (·.id = id)) = .ok g := by
  induction as generalizing c f with
  | nil => exact ⟨f, hf, rfl⟩
  | cons a as ih =>
    rw [carryOut_cons, Attempt.failure_andThen_eq_none_iff] at h
    obtain ⟨ha, has⟩ := h
    rw [carryOut_cons, Attempt.andThen_of_none ha]
    by_cases hid : a.id = id
    · obtain ⟨-, e⟩ | ⟨f', g, hf', hg, e⟩ | ⟨f', p, -, -, e⟩ :=
        assign_cases c a.id a.raw a.origin
      · rw [e] at ha
        cases ha
      · rw [hid, hf] at hf'
        obtain rfl := Option.some.inj hf'
        rw [e, hid] at has ⊢
        obtain ⟨k, hk, hfk⟩ := ih has (flagAt?_replace_self hf)
        refine ⟨k, hk, ?_⟩
        rw [List.filter_cons_of_pos (by simpa using hid), Flag.absorb, hg]
        exact hfk
      · rw [e] at ha
        cases ha
    · rw [List.filter_cons_of_neg (by simpa using hid)]
      exact ih has ((flagAt?_assign_of_ne (Ne.symm hid) _ _).trans hf)

theorem filter_ne_nil_of_mem_places {as : List TierAssignment} (h : id ∈ places as) :
    as.filter (·.id = id) ≠ [] := by
  obtain ⟨a, ha, hid⟩ := List.mem_map.1 h
  exact List.ne_nil_of_mem (List.mem_filter.2 ⟨ha, decide_eq_true hid⟩)

/-- Flags that were set, or that have an assignment, are set behind assignments that are all
accepted. -/
theorem mem_provided_carryOut {as : List TierAssignment} (h : (carryOut as c).failure = none)
    (hf : c.flagAt? id = some f) (hid : f.isSet = true ∨ id ∈ places as) :
    id ∈ (carryOut as c).state.provided := by
  obtain ⟨g, hg, habs⟩ := absorb_of_carryOut h hf
  exact mem_provided_iff.2
    ⟨g, hg, Flag.isSet_of_absorb habs (hid.imp_right filter_ne_nil_of_mem_places)⟩

/-- A flag with assignments, all of one tier and none refused, gets its value and its origin from
them. -/
theorem flagAt?_carryOut_of_mem {as : List TierAssignment} {o : Origin}
    (h : (carryOut as c).failure = none) (hf : c.flagAt? id = some f) (hid : id ∈ places as)
    (ho : ∀ a ∈ as, a.id = id → a.origin = o) :
    ∃ v, (carryOut as c).state.flagAt? id = some (f.given v o) ∧
      f.value.assignEach (rawsAt id as) = .ok v := by
  obtain ⟨g, hg, habs⟩ := absorb_of_carryOut h hf
  have hor : ∀ a ∈ as.filter (·.id = id), a.origin = o := by
    intro a ha
    obtain ⟨ha, hai⟩ := List.mem_filter.1 ha
    exact ho a ha (by simpa using hai)
  obtain ⟨hv, e⟩ := Flag.eq_given_of_absorb hor (filter_ne_nil_of_mem_places hid) habs
  exact ⟨g.value, e ▸ hg, hv⟩

end Chain

end LayeredFlags
