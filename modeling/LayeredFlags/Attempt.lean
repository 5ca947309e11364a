import LayeredFlags.Error

/-!
# Attempts

A step on some state may fail, and the state then is still what the steps before it made of it.
Steps follow one another until the first failure.
-/

namespace LayeredFlags

/-- The state after an operation, and why it failed, if it did. -/
structure Attempt (σ : Type) where
  state : σ
  failure : Option FlagError := none

namespace Attempt

variable {σ α β : Type}

/-- Goes on with the next operation unless there was a failure. -/
def andThen (a : Attempt σ) (next : σ → Attempt σ) : Attempt σ :=
  match a.failure with
  | none => next a.state
  | some _ => a

/-- One step for each element, up to the first failure. -/
def each (step : α → σ → Attempt σ) : List α → σ → Attempt σ
  | [], s => ⟨s, none⟩
  | a :: rest, s => (step a s).andThen (each step rest)

/-! ## Sequences -/

@[simp] theorem andThen_mk_none (s : σ) (next : σ → Attempt σ) :
    andThen ⟨s, none⟩ next = next s := rfl

theorem andThen_of_none {a : Attempt σ} (h : a.failure = none) (next : σ → Attempt σ) :
    a.andThen next = next a.state := by
  simp only [andThen, h]

theorem andThen_of_some {a : Attempt σ} {e : FlagError} (h : a.failure = some e)
    (next : σ → Attempt σ) : a.andThen next = a := by
  simp only [andThen, h]

theorem failure_andThen_eq_none_iff {a : Attempt σ} {next : σ → Attempt σ} :
    (a.andThen next).failure = none ↔ a.failure = none ∧ (next a.state).failure = none := by
  cases h : a.failure with
  | none => rw [andThen_of_none h]; simp
  | some e => rw [andThen_of_some h]; simp [h]

theorem andThen_assoc (a : Attempt σ) (f g : σ → Attempt σ) :
    (a.andThen f).andThen g = a.andThen fun s => (f s).andThen g := by
  cases h : a.failure with
  | none => rw [andThen_of_none h, andThen_of_none h]
  | some e => rw [andThen_of_some h, andThen_of_some h, andThen_of_some h]

theorem andThen_congr {a : Attempt σ} {f g : σ → Attempt σ} (h : f a.state = g a.state) :
    a.andThen f = a.andThen g := by
  unfold andThen
  rw [h]

@[simp] theorem andThen_mk (a : Attempt σ) : a.andThen (⟨·, none⟩) = a := by
  obtain ⟨s, _ | e⟩ := a <;> rfl

theorem andThen_eq_mk_none_iff {a : Attempt σ} {next : σ → Attempt σ} {t : σ} :
    a.andThen next = ⟨t, none⟩ ↔ ∃ s, a = ⟨s, none⟩ ∧ next s = ⟨t, none⟩ := by
  obtain ⟨r, _ | e⟩ := a
  · simp
  · simp [andThen]

theorem mk_of_none {a : Attempt σ} (h : a.failure = none) : ⟨a.state, none⟩ = a := by
  obtain ⟨s, failure⟩ := a
  cases h
  rfl

theorem andThen_preserves {P : σ → Prop} {a : Attempt σ} {next : σ → Attempt σ}
    (ha : P a.state) (hnext : ∀ s, P s → P (next s).state) : P (a.andThen next).state := by
  cases h : a.failure with
  | none => rw [andThen_of_none h]; exact hnext _ ha
  | some e => rw [andThen_of_some h]; exact ha

theorem each_cons (step : α → σ → Attempt σ) (a : α) (rest : List α) (s : σ) :
    each step (a :: rest) s = (step a s).andThen (each step rest) := rfl

theorem each_append (step : α → σ → Attempt σ) (xs ys : List α) (s : σ) :
    each step (xs ++ ys) s = (each step xs s).andThen (each step ys) := by
  induction xs generalizing s with
  | nil => rfl
  | cons x xs ih =>
    rw [List.cons_append, each_cons, each_cons, andThen_assoc]
    exact congrArg _ (funext ih)

theorem each_map (step : β → σ → Attempt σ) (f : α → β) (xs : List α) (s : σ) :
    each step (xs.map f) s = each (fun a => step (f a)) xs s := by
  induction xs generalizing s with
  | nil => rfl
  | cons x xs ih =>
    rw [List.map_cons, each_cons, each_cons]
    exact congrArg _ (funext ih)

theorem each_flatMap (step : β → σ → Attempt σ) (f : α → List β) (xs : List α) (s : σ) :
    each step (xs.flatMap f) s = each (fun a => each step (f a)) xs s := by
  induction xs generalizing s with
  | nil => rfl
  | cons x xs ih =>
    rw [List.flatMap_cons, each_append, each_cons]
    exact congrArg _ (funext ih)

theorem each_of_accepting (take : α → σ → σ) (xs : List α) (s : σ) :
    each (fun a t => ⟨take a t, none⟩) xs s = ⟨xs.foldl (fun t a => take a t) s, none⟩ := by
  induction xs generalizing s with
  | nil => rfl
  | cons x xs ih => rw [each_cons, andThen_mk_none, ih, List.foldl_cons]

/-- What every step keeps, a sequence of steps keeps, also where it fails. -/
theorem each_preserves {P : σ → Prop} {step : α → σ → Attempt σ} {xs : List α}
    (hstep : ∀ a ∈ xs, ∀ s, P s → P (step a s).state) {s : σ} (hs : P s) :
    P (each step xs s).state := by
  induction xs generalizing s with
  | nil => exact hs
  | cons x xs ih =>
    have hx := hstep x (List.mem_cons_self ..) s hs
    exact andThen_preserves hx fun t ht =>
      ih (fun a ha => hstep a (List.mem_cons_of_mem _ ha)) ht

/-- A sequence that fails does so at its first step that fails. -/
theorem exists_of_failure_each {step : α → σ → Attempt σ} {xs : List α} {s : σ} {e : FlagError}
    (h : (each step xs s).failure = some e) :
    ∃ done a todo, xs = done ++ a :: todo ∧ (each step done s).failure = none ∧
      (step a (each step done s).state).failure = some e ∧
      each step xs s = step a (each step done s).state := by
  induction xs generalizing s with
  | nil => cases h
  | cons x xs ih =>
    rw [each_cons] at h ⊢
    cases hx : (step x s).failure with
    | some e' =>
      rw [andThen_of_some hx] at h ⊢
      exact ⟨[], x, xs, rfl, rfl, h, rfl⟩
    | none =>
      rw [andThen_of_none hx] at h ⊢
      obtain ⟨done, a, todo, rfl, hd, ha, he⟩ := ih h
      refine ⟨x :: done, a, todo, rfl, ?_, ?_, ?_⟩ <;> rw [each_cons, andThen_of_none hx]
      · exact hd
      · exact ha
      · exact he

end Attempt

end LayeredFlags
