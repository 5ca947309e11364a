import LayeredFlags.Text.Blank
import LayeredFlags.Text.Cut
import Mathlib.Data.List.Chain
import Mathlib.Data.List.DropRight

/-!
# Trimming and cutting

Trimming takes the blanks off both ends and stops at the first character that is none.  A text is
cut at the first place of a separator, which is the one that was put there as long as the text
before it holds none.
-/

namespace LayeredFlags.Text

variable {s t : List Char} {c : Char}

/-! ## Trimming -/

theorem trimStart_cons (hc : isBlank c = false) : trimStart (c :: s) = c :: s :=
  List.dropWhile_cons_of_neg (by simp [hc])

theorem trimStart_append (hs : trimStart s ≠ []) : trimStart (s ++ t) = trimStart s ++ t := by
  unfold trimStart at hs ⊢
  rw [List.dropWhile_append, if_neg (by simpa using hs)]

theorem trimStart_append_cons (hc : isBlank c = false) :
    trimStart (s ++ c :: t) = trimStart s ++ c :: t := by
  unfold trimStart
  rw [List.dropWhile_append]
  split_ifs with hs
  · rw [List.isEmpty_iff.1 hs]
    exact trimStart_cons hc
  · rfl

theorem trimEnd_append (ht : ∀ c ∈ t, isBlank c = true) : trimEnd (s ++ t) = trimEnd s := by
  unfold trimEnd
  rw [List.reverse_append, List.dropWhile_append_of_pos (by simpa using ht)]

theorem trimEnd_append_cons (hc : isBlank c = false) :
    trimEnd (s ++ c :: t) = s ++ c :: trimEnd t := by
  have hlast : (c :: s.reverse).dropWhile isBlank = c :: s.reverse := trimStart_cons hc
  have hreverse : (s ++ c :: t).reverse = t.reverse ++ c :: s.reverse := by simp
  unfold trimEnd
  rw [hreverse, List.dropWhile_append, hlast]
  split_ifs with ht
  · rw [List.isEmpty_iff] at ht
    simp [ht]
  · simp

theorem trim_append (hs : ∀ c ∈ s, isBlank c = true) : trim (s ++ t) = trim t := by
  unfold trim trimStart
  rw [List.dropWhile_append_of_pos hs]

theorem trim_append_right (ht : ∀ c ∈ t, isBlank c = true) : trim (s ++ t) = trim s := by
  unfold trim trimStart
  rw [List.dropWhile_append]
  split_ifs with hs
  · have hnil : t.dropWhile isBlank = [] := List.dropWhile_eq_nil_iff.2 ht
    rw [List.isEmpty_iff] at hs
    rw [hnil, hs]
  · exact trimEnd_append ht

theorem trim_cons_append_cons {d : Char} (hc : isBlank c = false) (hd : isBlank d = false) :
    trim (c :: (s ++ d :: t)) = c :: (s ++ d :: trimEnd t) := by
  unfold trim
  rw [trimStart_cons hc]
  have hend : trimEnd (c :: s ++ d :: t) = c :: s ++ d :: trimEnd t := trimEnd_append_cons hd
  exact hend

theorem exists_trimEnd_append (s : List Char) :
    ∃ t, trimEnd s ++ t = s ∧ ∀ c ∈ t, isBlank c = true :=
  ⟨s.rtakeWhile isBlank, List.rdropWhile_append_rtakeWhile,
    fun _ hc => List.mem_rtakeWhile_imp hc⟩

theorem trim_trimEnd (s : List Char) : trim (trimEnd s) = trim s := by
  obtain ⟨t, hs, ht⟩ := exists_trimEnd_append s
  conv_rhs => rw [← hs, trim_append_right ht]

theorem trim_trimStart (s : List Char) : trim (trimStart s) = trim s :=
  congrArg trimEnd (List.dropWhile_idempotent isBlank s)

theorem trim_trim (s : List Char) : trim (trim s) = trim s :=
  (trim_trimEnd (trimStart s)).trans (trim_trimStart s)

theorem trimEnd_append_of_ne_nil (ht : trimEnd t ≠ []) : trimEnd (s ++ t) = s ++ trimEnd t := by
  unfold trimEnd at ht ⊢
  rw [List.reverse_append, List.dropWhile_append, if_neg (by simpa using ht), List.reverse_append,
    List.reverse_reverse]

theorem isBlank_of_trimStart (h : trimStart s = c :: t) : isBlank c = false := by
  refine Bool.eq_false_iff.2 fun hc => ?_
  have hskip : trimStart (c :: t) = trimStart t := List.dropWhile_cons_of_pos hc
  have hsame : trimStart (c :: t) = c :: t := h ▸ List.dropWhile_idempotent isBlank s
  have hlen : (trimStart t).length ≤ t.length := (List.dropWhile_suffix isBlank).length_le
  rw [← hskip, hsame, List.length_cons] at hlen
  omega

theorem trim_of_trimStart (h : trimStart s = c :: t) : trim s = c :: trimEnd t := by
  rw [trim, h]
  exact trimEnd_append_cons (s := []) (isBlank_of_trimStart h)

/-! ### Trimmed texts -/

theorem trim_ne_nil_of_mem (hs : c ∈ s) (hc : isBlank c = false) : trim s ≠ [] := by
  cases hstart : trimStart s with
  | nil => simp [List.dropWhile_eq_nil_iff.1 hstart c hs] at hc
  | cons d t => simp [trim_of_trimStart hstart]

theorem trimStart_eq_self (h : trim s = s) : trimStart s = s := by
  have hprefix : trim s <+: trimStart s := List.rdropWhile_prefix isBlank (trimStart s)
  rw [h] at hprefix
  exact (List.dropWhile_suffix isBlank).eq_of_length_le hprefix.length_le

theorem trimEnd_eq_self (h : trim s = s) : trimEnd s = s := by
  conv_lhs => rw [← trimStart_eq_self h]
  exact h

theorem isBlank_head (h : trim (c :: s) = c :: s) : isBlank c = false := by
  simpa using List.dropWhile_eq_self_iff.1 (trimStart_eq_self h)

theorem isBlank_last (h : trim (s ++ [c]) = s ++ [c]) : isBlank c = false := by
  simpa using List.rdropWhile_eq_self_iff.1 (trimEnd_eq_self h)

theorem trim_of_forall_not (h : ∀ c ∈ s, isBlank c = false) : trim s = s := by
  have hstart : trimStart s = s :=
    List.dropWhile_eq_self_iff.2 fun hs => by simp [h _ (List.getElem_mem hs)]
  have hend : trimEnd s = s :=
    List.rdropWhile_eq_self_iff.2 fun hs => by simp [h _ (List.getLast_mem hs)]
  rw [trim, hstart, hend]

/-! ## Beginnings -/

theorem dropFront?_eq_none_iff {front s : List Char} :
    dropFront? front s = none ↔ ¬ front <+: s := by
  refine ⟨?_, fun h => ?_⟩
  · rintro h ⟨t, rfl⟩
    rw [dropFront?_append] at h
    exact absurd h (by simp)
  · cases ht : dropFront? front s with
    | none => rfl
    | some t => exact absurd ⟨t, (eq_append_of_dropFront? ht).symm⟩ h

/-- A text that does not begin with `front` still does not with a character behind it that `front`
lacks. -/
theorem dropFront?_append_cons {front : List Char} (hs : ¬ front <+: s) (hc : c ∉ front) :
    dropFront? front (s ++ c :: t) = none := by
  rw [dropFront?_eq_none_iff]
  intro hfront
  by_cases hlen : front.length ≤ s.length
  · exact hs (List.prefix_of_prefix_length_le hfront (List.prefix_append s _) hlen)
  · have hwhole : s ++ [c] <+: s ++ c :: t := ⟨t, by simp⟩
    have hshort : s ++ [c] <+: front :=
      List.prefix_of_prefix_length_le hwhole hfront (by rw [List.length_append]; simp; omega)
    exact hc (hshort.subset (by simp))

/-- A character that `front` lacks ends what `front` is looked for in. -/
theorem dropFront?_append_of_not_mem {front : List Char} (hc : c ∉ front) :
    dropFront? front (s ++ c :: t) = (dropFront? front s).map (· ++ c :: t) := by
  cases hs : dropFront? front s with
  | none => exact dropFront?_append_cons (dropFront?_eq_none_iff.1 hs) hc
  | some rest =>
    rw [eq_append_of_dropFront? hs, List.append_assoc, dropFront?_append]
    rfl

/-! ## Separators -/

theorem cut?_eq_none_iff {sep : List Char} : cut? sep s = none ↔ ¬ sep <:+: s := by
  induction s with
  | nil => simp [cut?, dropFront?_eq_none_iff]
  | cons c s ih =>
    rw [cut?, List.infix_cons_iff, not_or, ← ih, ← dropFront?_eq_none_iff]
    cases dropFront? sep (c :: s) with
    | none => simp
    | some t => simp

theorem before_eq_self {sep : List Char} (h : ¬ sep <:+: s) : before sep s = s := by
  rw [before, cut?_eq_none_iff.2 h]

/-- A separator that begins before another one ends before the last character of that. -/
theorem prefix_cons_append_iff {sep : List Char} :
    sep <+: c :: (s ++ (sep ++ t)) ↔ sep <+: c :: (s ++ sep.dropLast) := by
  have hfront : c :: (s ++ sep.dropLast) <+: c :: (s ++ (sep ++ t)) := by
    rw [List.cons_prefix_cons, List.prefix_append_right_inj]
    exact ⟨rfl, sep.dropLast_prefix.trans (List.prefix_append sep t)⟩
  refine ⟨fun h => List.prefix_of_prefix_length_le h hfront ?_, fun h => h.trans hfront⟩
  simp
  omega

/-- The text before a separator is read, if the separator does not begin earlier. -/
theorem cut?_append {sep : List Char} (h : ¬ sep <:+: s ++ sep.dropLast) :
    cut? sep (s ++ (sep ++ t)) = some (s, t) := by
  induction s with
  | nil =>
    obtain ⟨a, sep, rfl⟩ : ∃ a rest, sep = a :: rest := by
      cases sep with
      | nil => exact absurd List.nil_infix h
      | cons a rest => exact ⟨a, rest, rfl⟩
    have hfront : dropFront? (a :: sep) (a :: (sep ++ t)) = some t := dropFront?_append (a :: sep) t
    rw [List.nil_append, List.cons_append, cut?, hfront]
  | cons c s ih =>
    rw [List.cons_append, List.infix_cons_iff, not_or, ← prefix_cons_append_iff (t := t)] at h
    rw [List.cons_append, cut?, dropFront?_eq_none_iff.2 h.1, ih h.2]
    rfl

theorem not_infix_dropLast {sep : List Char} (hsep : sep ≠ []) : ¬ sep <:+: sep.dropLast := by
  intro h
  have hle := h.length_le
  have hpos := List.length_pos_iff.2 hsep
  rw [List.length_dropLast] at hle
  omega

/-- The text before a separator is read just when the separator stands behind it and nowhere
earlier. -/
theorem cut?_eq_some_iff {sep a : List Char} (hsep : sep ≠ []) :
    cut? sep s = some (a, t) ↔ s = a ++ (sep ++ t) ∧ ¬ sep <:+: a ++ sep.dropLast := by
  refine ⟨fun h => ?_, fun ⟨hs, hfirst⟩ => hs ▸ cut?_append hfirst⟩
  induction s generalizing a with
  | nil =>
    have hnone : cut? sep [] = none := cut?_eq_none_iff.2 (by simpa using hsep)
    rw [hnone] at h
    cases h
  | cons c s ih =>
    rw [cut?] at h
    cases hfront : dropFront? sep (c :: s) with
    | some u =>
      rw [hfront] at h
      cases h
      rw [eq_append_of_dropFront? hfront]
      exact ⟨rfl, not_infix_dropLast hsep⟩
    | none =>
      rw [hfront] at h
      obtain ⟨⟨b, u⟩, hcut, e⟩ := Option.map_eq_some_iff.1 h
      cases e
      obtain ⟨rfl, hfirst⟩ := ih hcut
      refine ⟨rfl, ?_⟩
      rw [List.cons_append, List.infix_cons_iff, not_or, ← prefix_cons_append_iff (t := u)]
      exact ⟨dropFront?_eq_none_iff.1 hfront, hfirst⟩

theorem before_append {sep : List Char} (h : ¬ sep <:+: s ++ sep.dropLast) :
    before sep (s ++ (sep ++ t)) = s := by
  rw [before, cut?_append h]

/-- Two characters stand nowhere side by side. -/
theorem not_pair_infix_iff {a b : Char} :
    ¬ [a, b] <:+: s ↔ s.IsChain fun x y => ¬ (x = a ∧ y = b) := by
  rw [List.isChain_iff_forall_rel_of_append_cons_cons]
  constructor
  · rintro h x y u v rfl ⟨rfl, rfl⟩
    exact h ⟨u, v, by simp⟩
  · rintro h ⟨u, v, rfl⟩
    have hsplit : u ++ [a, b] ++ v = u ++ a :: b :: v := by simp
    exact h hsplit ⟨rfl, rfl⟩

/-! ## Classes of characters -/

section Classes

variable {p : Char → Bool}

/-- A text with a character of a class has a first one. -/
theorem exists_first (h : ¬ ∀ c ∈ s, p c = false) :
    ∃ front c rest, s = front ++ c :: rest ∧ p c = true ∧ ∀ d ∈ front, p d = false := by
  cases hfind : s.find? p with
  | none =>
    rw [List.find?_eq_none] at hfind
    exact absurd (fun c hc => Bool.eq_false_iff.2 (hfind c hc)) h
  | some c =>
    obtain ⟨hc, front, rest, hs, hfront⟩ := List.find?_eq_some_iff_append.1 hfind
    exact ⟨front, c, rest, hs, hc, fun d hd => by simpa using hfront d hd⟩

/-- A change of characters that keeps the class cuts at the same place. -/
theorem cutWhere?_map {f : Char → Char} (hf : ∀ c, p (f c) = p c) (s : List Char) :
    cutWhere? p (s.map f) = (cutWhere? p s).map fun q => (q.1.map f, q.2.map f) := by
  induction s with
  | nil => rfl
  | cons c s ih =>
    rw [List.map_cons, cutWhere?, cutWhere?, hf, ih]
    split_ifs
    · rfl
    · cases cutWhere? p s <;> rfl

theorem pieces_ne_nil (p : Char → Bool) (s : List Char) : pieces p s ≠ [] := by
  cases s with
  | nil => exact List.cons_ne_nil _ _
  | cons c s =>
    unfold pieces
    split_ifs
    · exact List.cons_ne_nil _ _
    · split <;> exact List.cons_ne_nil _ _

theorem pieces_append_cons (hc : p c = true) (s t : List Char) :
    pieces p (s ++ c :: t) = pieces p s ++ pieces p t := by
  induction s with
  | nil =>
    have hcons : pieces p (c :: t) = [] :: pieces p t := by rw [pieces, if_pos hc]
    exact hcons
  | cons d s ih =>
    rw [List.cons_append, pieces, pieces, ih]
    split_ifs
    · rfl
    · cases hs : pieces p s with
      | nil => exact absurd hs (pieces_ne_nil p s)
      | cons u us => rfl

theorem pieces_of_forall_not (h : ∀ c ∈ s, p c = false) : pieces p s = [s] := by
  induction s with
  | nil => rfl
  | cons c s ih =>
    rw [List.forall_mem_cons] at h
    rw [pieces, if_neg (by simp [h.1]), ih h.2]

theorem forall_not_of_mem_pieces (ht : t ∈ pieces p s) : ∀ c ∈ t, p c = false := by
  induction s generalizing t with
  | nil =>
    rw [pieces, List.mem_singleton] at ht
    rw [ht]
    exact fun c hc => absurd hc List.not_mem_nil
  | cons d s ih =>
    rw [pieces] at ht
    split_ifs at ht with hd
    · rcases List.mem_cons.1 ht with rfl | ht
      · exact fun c hc => absurd hc List.not_mem_nil
      · exact ih ht
    · cases hs : pieces p s with
      | nil => exact absurd hs (pieces_ne_nil p s)
      | cons u us =>
        rw [hs] at ht
        rcases List.mem_cons.1 ht with rfl | ht
        · rw [List.forall_mem_cons]
          exact ⟨by simpa using hd, ih (hs ▸ List.mem_cons_self)⟩
        · exact ih (hs ▸ List.mem_cons_of_mem _ ht)

end Classes

end LayeredFlags.Text
