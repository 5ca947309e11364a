/-!
# Cutting texts

Removing a known beginning, and cutting a text at the first place where a separator stands.
-/

namespace LayeredFlags.Text

/-- What follows `front` in a text that begins with it. -/
def dropFront? : (front s : List Char) → Option (List Char)
  | [], s => some s
  | _ :: _, [] => none
  | a :: front, c :: s => if a = c then dropFront? front s else none

theorem dropFront?_append (front s : List Char) : dropFront? front (front ++ s) = some s := by
  induction front with
  | nil => cases s <;> rfl
  | cons a front ih => simp [dropFront?, ih]

theorem eq_append_of_dropFront? {front s t : List Char} (h : dropFront? front s = some t) :
    s = front ++ t := by
  induction front generalizing s with
  | nil => cases s <;> simp_all [dropFront?]
  | cons a front ih =>
    cases s with
    | nil => simp [dropFront?] at h
    | cons c s =>
      simp only [dropFront?] at h
      split at h
      · next e => rw [e, ih h, List.cons_append]
      · simp at h

/-- The parts before and after the first place where `sep` stands. -/
def cut? (sep : List Char) : List Char → Option (List Char × List Char)
  | [] => (dropFront? sep []).map ([], ·)
  | c :: s =>
    match dropFront? sep (c :: s) with
    | some t => some ([], t)
    | none => (cut? sep s).map fun p => (c :: p.1, p.2)

/-- The part before the first `sep`, or the whole text. -/
def before (sep s : List Char) : List Char :=
  match cut? sep s with
  | some (a, _) => a
  | none => s

/-- The parts before and after the first character of a class. -/
def cutWhere? (p : Char → Bool) : List Char → Option (List Char × List Char)
  | [] => none
  | c :: s => if p c then some ([], s) else (cutWhere? p s).map fun q => (c :: q.1, q.2)

theorem cutWhere?_of_forall_not {p : Char → Bool} {s : List Char} (h : ∀ c ∈ s, p c = false) :
    cutWhere? p s = none := by
  induction s with
  | nil => rfl
  | cons c s ih =>
    have hc : ¬ p c = true := by simp [h c]
    rw [cutWhere?, if_neg hc, ih fun d hd => h d (List.mem_cons_of_mem _ hd)]
    rfl

theorem cutWhere?_append {p : Char → Bool} {s t : List Char} {sep : Char}
    (h : ∀ c ∈ s, p c = false) (hsep : p sep = true) :
    cutWhere? p (s ++ sep :: t) = some (s, t) := by
  induction s with
  | nil => rw [List.nil_append, cutWhere?, if_pos hsep]
  | cons c s ih =>
    have hc : ¬ p c = true := by simp [h c]
    rw [List.cons_append, cutWhere?, if_neg hc, ih fun d hd => h d (List.mem_cons_of_mem _ hd)]
    rfl

/-- The text without its leading dashes. -/
def dropDashes (s : List Char) : List Char :=
  s.dropWhile (· == '-')

/-- The pieces between the characters of a class. -/
def pieces (p : Char → Bool) : List Char → List (List Char)
  | [] => [[]]
  | c :: s =>
    if p c then [] :: pieces p s
    else match pieces p s with
      | [] => [[c]]
      | t :: ts => (c :: t) :: ts

end LayeredFlags.Text
