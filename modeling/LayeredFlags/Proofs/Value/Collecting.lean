import LayeredFlags.Value.Basic
import Mathlib.Data.List.DropRight
import Mathlib.Data.List.Nodup

/-!
# Filling a collection

The elements that a collection reports depend only on the strings that could be read since the
last reset: there are none and the defaults stand in, or it reports what was read, in unique mode
the first of equal elements only.  This holds for elements of any type, as long as the test of the
collection decides equality of the elements that can be read; the lists behind flags are such
collections unless they hold floating-point numbers.
-/

namespace LayeredFlags

section FirstOfEqual

variable {α : Type} [DecidableEq α]

theorem eraseDups_append_singleton (xs : List α) (x : α) :
    (xs ++ [x]).eraseDups = if x ∈ xs then xs.eraseDups else xs.eraseDups ++ [x] := by
  rw [List.eraseDups_append]
  split_ifs with hx <;> simp [List.removeAll, hx, List.eraseDups_cons]

theorem nodup_eraseDups (xs : List α) : xs.eraseDups.Nodup := by
  induction xs using List.reverseRecOn with
  | nil => exact List.nodup_nil
  | append_singleton xs x ih =>
    rw [eraseDups_append_singleton]
    split_ifs with hx
    · exact ih
    · rw [← List.concat_eq_append]
      exact ih.concat fun hmem => hx (List.mem_eraseDups.1 hmem)

end FirstOfEqual

namespace Collection

variable {α ε : Type}

/-! ## Calls -/

/-- A call on a collection. -/
inductive Call where
  | set (raw : String)
  | reset
  deriving DecidableEq

section Calls

variable (read : String → Except ε α) (same : α → α → Bool)

/-- The collection after a call; a string that is refused leaves it as it is. -/
def perform (c : Collection α) : Call → Collection α
  | .set raw =>
    match c.assign read same raw with
    | .ok c' => c'
    | .error _ => c
  | .reset => c.restored

/-- The collection after some calls. -/
def run (c : Collection α) (calls : List Call) : Collection α :=
  calls.foldl (perform read same) c

/-- The element that a call gives to a collection. -/
def Call.element? : Call → Option α
  | .set raw => (read raw).toOption
  | .reset => none

/-- The elements that were read since the last reset, in the order of the calls. -/
def elements (calls : List Call) : List α :=
  (calls.rtakeWhile (· ≠ .reset)).filterMap (Call.element? read)

/-- The test decides equality of the elements that can be read. -/
def DecidesEq : Prop :=
  ∀ ⦃raw raw' : String⦄ ⦃x y : α⦄, read raw = .ok x → read raw' = .ok y →
    (same x y = true ↔ x = y)

end Calls

variable {read : String → Except ε α} {same : α → α → Bool} {raw : String} {x : α} {e : ε}
  {calls : List Call}

theorem run_append (c : Collection α) (later : List Call) :
    c.run read same (calls ++ later) = (c.run read same calls).run read same later :=
  List.foldl_append

theorem perform_of_ok (c : Collection α) (h : read raw = .ok x) :
    c.perform read same (.set raw) = c.push same x := by
  simp only [perform, assign, h, Except.map]

theorem perform_of_error (c : Collection α) (h : read raw = .error e) :
    c.perform read same (.set raw) = c := by
  simp only [perform, assign, h, Except.map]

theorem elements_reset : elements read (calls ++ [.reset]) = [] := by
  rw [elements, List.rtakeWhile_concat_neg _ _ _ (by simp), List.filterMap_nil]

theorem elements_of_ok (h : read raw = .ok x) :
    elements read (calls ++ [.set raw]) = elements read calls ++ [x] := by
  rw [elements, List.rtakeWhile_concat_pos _ _ _ (by simp), List.filterMap_append]
  simp [elements, Call.element?, h, Except.toOption]

theorem elements_of_error (h : read raw = .error e) :
    elements read (calls ++ [.set raw]) = elements read calls := by
  rw [elements, List.rtakeWhile_concat_pos _ _ _ (by simp), List.filterMap_append]
  simp [elements, Call.element?, h, Except.toOption]

theorem exists_read_of_mem (h : x ∈ elements read calls) : ∃ raw, read raw = .ok x := by
  obtain ⟨call, -, hx⟩ := List.mem_filterMap.1 h
  cases call with
  | reset => cases hx
  | set raw =>
    refine ⟨raw, ?_⟩
    cases hr : read raw with
    | error e => simp [Call.element?, hr, Except.toOption] at hx
    | ok y => simpa [Call.element?, hr, Except.toOption] using hx

/-! ## What is kept -/

variable [DecidableEq α] {unique : Bool} {defaults xs : List α}

/-- What a collection keeps of the elements that it was given: in unique mode the first of equal
ones only. -/
def kept (unique : Bool) (xs : List α) : List α :=
  if unique then xs.eraseDups else xs

/-- The collection with these defaults that was given these elements. -/
def holding (unique : Bool) (defaults xs : List α) : Collection α :=
  { unique, defaults, collected := if xs = [] then none else some (kept unique xs) }

theorem mem_kept_iff : x ∈ kept unique xs ↔ x ∈ xs := by
  unfold kept
  split_ifs
  · exact List.mem_eraseDups
  · rfl

theorem kept_append_singleton : kept unique (xs ++ [x]) =
    if unique && decide (x ∈ xs) then kept unique xs else kept unique xs ++ [x] := by
  cases unique with
  | false => rfl
  | true => simp only [kept, if_true, Bool.true_and, decide_eq_true_eq, eraseDups_append_singleton]

theorem getD_collected_holding :
    (holding unique defaults xs).collected.getD [] = kept unique xs := by
  by_cases hxs : xs = []
  · subst hxs
    cases unique <;> rfl
  · simp [holding, hxs]

/-- One more element goes behind the others, unless it is dropped. -/
theorem push_holding (h : ∀ y ∈ xs, same y x = true ↔ y = x) :
    (holding unique defaults xs).push same x = holding unique defaults (xs ++ [x]) := by
  have hany : (kept unique xs).any (same · x) = decide (x ∈ xs) := by
    rw [Bool.eq_iff_iff, List.any_eq_true, decide_eq_true_eq]
    constructor
    · rintro ⟨y, hy, hsame⟩
      have hmem := mem_kept_iff.1 hy
      exact (h y hmem).1 hsame ▸ hmem
    · exact fun hx => ⟨x, mem_kept_iff.2 hx, (h x hx).2 rfl⟩
  have hunique : (holding unique defaults xs).unique = unique := rfl
  simp only [push, getD_collected_holding, hunique, hany, ← kept_append_singleton]
  simp [holding]

/-- After any calls a new collection holds the elements that were read since the last reset. -/
theorem run_eq_holding (h : DecidesEq read same) (unique : Bool) (defaults : List α)
    (calls : List Call) :
    run read same { unique, defaults } calls = holding unique defaults (elements read calls) := by
  -- a reset forgets all calls in front of it, so the induction is on the last call
  induction calls using List.reverseRecOn with
  | nil => rfl
  | append_singleton calls call ih =>
    rw [run_append, ih]
    cases call with
    | reset =>
      rw [elements_reset]
      rfl
    | set raw =>
      change perform read same _ (.set raw) = _
      cases hr : read raw with
      | error e => rw [perform_of_error _ hr, elements_of_error hr]
      | ok x =>
        rw [perform_of_ok _ hr, elements_of_ok hr]
        refine push_holding fun y hy => ?_
        obtain ⟨raw', hraw'⟩ := exists_read_of_mem hy
        exact h hraw' hr

end Collection

/-! ## Lists behind flags -/

/-- The value after a call, where it can be reset. -/
def Value.perform (v : Value) : Collection.Call → Value
  | .set raw =>
    match v.assign raw with
    | .ok w => w
    | .error _ => v
  | .reset =>
    match v.restore? with
    | some (.ok w) => w
    | _ => v

/-- A list behaves as its collection. -/
theorem Value.foldl_perform_ofCollection (type : ScalarType) (c : Collection Datum)
    (calls : List Collection.Call) :
    calls.foldl Value.perform (.ofCollection type c) =
      .ofCollection type (c.run type.read Datum.same calls) := by
  induction calls generalizing c with
  | nil => rfl
  | cons call calls ih =>
    have hcall : (ofCollection type c).perform call =
        .ofCollection type (c.perform type.read Datum.same call) := by
      cases call with
      | reset => rfl
      | set raw =>
        cases hr : type.read raw <;>
          simp [perform, Collection.perform, ofCollection, Value.assign, Collection.assign, hr,
            Except.map]
    rw [List.foldl_cons, hcall, ih]
    rfl

theorem Datum.same_iff_eq {x : Datum} (hx : ∀ f, x ≠ .float f) (y : Datum) :
    x.same y = true ↔ x = y := by
  cases x with
  | float f => exact absurd rfl (hx f)
  | _ => exact beq_iff_eq

theorem ScalarType.ne_float_of_read {type : ScalarType} (htype : type ≠ .float) {raw : String}
    {x : Datum} (h : type.read raw = .ok x) (f : Number.Binary64) : x ≠ .float f := by
  rintro rfl
  unfold read at h
  split at h
  · cases h
  · next t => cases hi : t.read raw.toList <;> simp [hi, Except.map] at h
  · exact htype rfl
  · split_ifs at h <;> cases h
  · split at h <;> cases h

theorem decidesEq_same {type : ScalarType} (htype : type ≠ .float) :
    Collection.DecidesEq type.read Datum.same :=
  fun _ _ _ y hx _ => Datum.same_iff_eq (ScalarType.ne_float_of_read htype hx) y

/-! ## What is reported -/

namespace Collection

variable {α ε : Type} [DecidableEq α] {read : String → Except ε α} {same : α → α → Bool}

/-- What some calls make of a new collection. -/
structure Accumulates (read : String → Except ε α) (same : α → α → Bool) (unique : Bool)
    (defaults : List α) (calls : List Call) (c : Collection α) : Prop where
  /-- The defaults stand in as long as nothing was read. -/
  standIn : elements read calls = [] → c.values = defaults
  /-- Then it reports what was read, in the order of the calls. -/
  inOrder : unique = false → elements read calls ≠ [] → c.values = elements read calls
  /-- In unique mode it reports the first of equal elements. -/
  firsts : unique = true → elements read calls ≠ [] → c.values = (elements read calls).eraseDups
  /-- So nothing is reported twice. -/
  nodup : unique = true → elements read calls ≠ [] → c.values.Nodup
  /-- A string that can be read is taken. -/
  takes : ∀ raw x, read raw = .ok x → ∃ c', c.assign read same raw = .ok c'
  /-- A string that cannot be read is refused, and all later calls go as they would without it. -/
  refuses : ∀ raw e, read raw = .error e → c.assign read same raw = .error e ∧
    ∀ later, run read same { unique, defaults } (calls ++ .set raw :: later) =
      run read same { unique, defaults } (calls ++ later)

/-- Under any calls a collection accumulates the strings that can be read. -/
theorem accumulates_run (h : DecidesEq read same) (unique : Bool) (defaults : List α)
    (calls : List Call) :
    Accumulates read same unique defaults calls (run read same { unique, defaults } calls) := by
  have hrun := run_eq_holding h unique defaults calls
  have hvalues (hne : elements read calls ≠ []) :
      (run read same { unique, defaults } calls).values = kept unique (elements read calls) := by
    simp [hrun, values, holding, hne]
  exact {
    standIn := fun hnil => by simp [hrun, values, holding, hnil]
    inOrder := fun hunique hne => by simpa [kept, hunique] using hvalues hne
    firsts := fun hunique hne => by simpa [kept, hunique] using hvalues hne
    nodup := fun hunique hne => by
      rw [hvalues hne, kept, if_pos hunique]
      exact nodup_eraseDups _
    takes := fun raw x hx => by simp [assign, hx, Except.map]
    refuses := fun raw e he => by
      refine ⟨by simp only [assign, he, Except.map], fun later => ?_⟩
      rw [run_append, run_append, run, List.foldl_cons, perform_of_error _ he]
      rfl }

/-- The calls of a session in which a string is refused and a reset comes in between. -/
def sampleCalls : List Call :=
  [.set "9", .reset, .set "1", .set "2", .set "x", .set "1", .set "3", .set "2"]

theorem accumulates_run_sample :
    let type := ScalarType.int ⟨false, 32⟩
    let c := run type.read Datum.same { unique := true, defaults := [.int 7] } sampleCalls
    DecidesEq type.read Datum.same ∧
      Accumulates type.read Datum.same true [.int 7] sampleCalls c ∧
      c.values = [.int 1, .int 2, .int 3] :=
  have h : DecidesEq (ScalarType.int ⟨false, 32⟩).read Datum.same := decidesEq_same (by decide)
  ⟨h, accumulates_run h true [.int 7] sampleCalls, by decide⟩

end Collection

end LayeredFlags
