import LayeredFlags.Proofs.Text.Cutting
import LayeredFlags.Proofs.Text.Separated
import Mathlib.Data.List.Infix

/-!
# Separators of any length

Where no separator stands behind a backslash, the elements of a text are its ordinary split: each
goes up to the first place where the separator stands, and the next one begins behind it.  In
general the elements, with the separator between them, are the text without the backslashes before
separators, as long as the separator has no backslash of its own.
-/

namespace LayeredFlags.Text

variable {sep s t current : List Char} {c : Char} {parts : List (List Char)}

/-! ## Splitting -/

/-- A text and its parts: the separator is looked for from the left, and behind each place of it
again. -/
inductive Splits (sep : List Char) : List Char → List (List Char) → Prop
  /-- The separator does not stand in `s`. -/
  | last {s : List Char} (none : ¬ sep <:+: s) : Splits sep s [s]
  /-- The separator stands behind `a` and nowhere earlier. -/
  | next {a t : List Char} {parts : List (List Char)} (first : ¬ sep <:+: a ++ sep.dropLast)
      (rest : Splits sep t parts) : Splits sep (a ++ (sep ++ t)) (a :: parts)

/-- The parts of a text between the places of a separator; an empty separator divides nothing. -/
def splitChars (sep s : List Char) : List (List Char) :=
  match _h : if sep = [] then none else cut? sep s with
  | some (a, t) => a :: splitChars sep t
  | none => [s]
termination_by s.length
decreasing_by
  split at _h
  · cases _h
  · next hsep =>
    have := congrArg List.length ((cut?_eq_some_iff hsep).1 _h).1
    have := List.length_pos_iff.mpr hsep
    simp only [List.length_append] at *
    omega

theorem splitChars_of_cut? (hsep : sep ≠ []) {a : List Char} (h : cut? sep s = some (a, t)) :
    splitChars sep s = a :: splitChars sep t := by
  rw [splitChars]
  split
  next b u hcut =>
    rw [if_neg hsep, h] at hcut
    cases hcut
    rfl
  next hcut =>
    rw [if_neg hsep, h] at hcut
    cases hcut

theorem splitChars_undivided (h : ¬ sep <:+: s) : splitChars sep s = [s] := by
  rw [splitChars]
  split
  next b u hcut =>
    rw [cut?_eq_none_iff.2 h, ite_self] at hcut
    cases hcut
  next => rfl

/-- The split is the one that goes from left to right. -/
theorem splitChars_eq_iff (hsep : sep ≠ []) : splitChars sep s = parts ↔ Splits sep s parts := by
  constructor
  · rintro rfl
    induction hn : s.length using Nat.strongRecOn generalizing s with
    | ind n ih =>
      subst hn
      cases hcut : cut? sep s with
      | none =>
        rw [splitChars_undivided (cut?_eq_none_iff.1 hcut)]
        exact .last (cut?_eq_none_iff.1 hcut)
      | some p =>
        obtain ⟨a, t⟩ := p
        obtain ⟨hs, hfirst⟩ := (cut?_eq_some_iff hsep).1 hcut
        have hlt : t.length < s.length := by
          have := List.length_pos_iff.2 hsep
          rw [hs, List.length_append, List.length_append]
          omega
        rw [splitChars_of_cut? hsep hcut, hs]
        exact .next hfirst (ih _ hlt rfl)
  · intro h
    induction h with
    | last hnone => exact splitChars_undivided hnone
    | next hfirst _ ih => rw [splitChars_of_cut? hsep (cut?_append hfirst), ih]

theorem splitChars_ne_nil (sep s : List Char) : splitChars sep s ≠ [] := by
  rw [splitChars]
  split <;> exact List.cons_ne_nil _ _

theorem splitChars_append (hsep : sep ≠ []) (t : List Char) :
    splitChars sep (sep ++ t) = [] :: splitChars sep t :=
  splitChars_of_cut? hsep ((cut?_eq_some_iff hsep).2 ⟨rfl, not_infix_dropLast hsep⟩)

/-- A character at which no separator begins belongs to the first part. -/
theorem splitChars_cons (h : ¬ sep <+: c :: s) :
    splitChars sep (c :: s) = (splitChars sep s).modifyHead (c :: ·) := by
  have hsep : sep ≠ [] := by
    rintro rfl
    exact h List.nil_prefix
  have hcut : cut? sep (c :: s) = (cut? sep s).map fun p => (c :: p.1, p.2) := by
    rw [cut?, dropFront?_eq_none_iff.2 h]
  cases hs : cut? sep s with
  | none =>
    rw [hs, Option.map_none, cut?_eq_none_iff] at hcut
    rw [splitChars_undivided hcut, splitChars_undivided (cut?_eq_none_iff.1 hs)]
    rfl
  | some p =>
    rw [hs, Option.map_some] at hcut
    rw [splitChars_of_cut? hsep hcut, splitChars_of_cut? hsep hs]
    rfl

/-! ## Reading -/

/-- Without a separator behind a backslash the elements are the split. -/
theorem elementsFrom_eq_splitChars (hsep : sep ≠ []) (current s : List Char)
    (h : ¬ '\\' :: sep <:+: s) :
    elementsFrom sep current s = (splitChars sep s).modifyHead (current.reverse ++ ·) := by
  induction current, s using scan_induction hsep with
  | nil current =>
    rw [splitChars_undivided (by simpa using hsep), elementsFrom]
    simp
  | escape current s _ => exact absurd ⟨[], s, rfl⟩ h
  | divide current s hescape ih =>
    rw [elementsFrom_append hsep hescape, splitChars_append hsep,
      ih fun hs => h (hs.trans (List.suffix_append sep s).isInfix)]
    cases splitChars sep s <;> simp
  | keep current c s hescape hfront ih =>
    rw [elementsFrom_passing hescape hfront, splitChars_cons hfront,
      ih fun hs => h (hs.trans (List.suffix_cons c s).isInfix), List.modifyHead_modifyHead]
    congr 1
    funext t
    simp

/-! ## Writing what was read -/

/-- A text without the backslashes that stand before a separator. -/
def unescaped (sep : List Char) : List Char → List Char
  | [] => []
  | c :: s => if c = '\\' ∧ sep <+: s then unescaped sep s else c :: unescaped sep s

theorem unescaped_append (ht : '\\' ∉ t) (s : List Char) :
    unescaped sep (t ++ s) = t ++ unescaped sep s := by
  induction t with
  | nil => rfl
  | cons c t ih =>
    rw [List.mem_cons, not_or] at ht
    rw [List.cons_append, unescaped, if_neg fun h => ht.1 h.1.symm, ih ht.2, List.cons_append]

theorem intercalate_modifyHead {u : List Char} (hparts : parts ≠ []) :
    sep.intercalate (parts.modifyHead (u ++ ·)) = u ++ sep.intercalate parts := by
  match parts with
  | [] => exact absurd rfl hparts
  | [s] => simp
  | s :: t :: parts => simp [List.intercalate_cons_cons]

theorem intercalate_nil_cons (hparts : parts ≠ []) :
    sep.intercalate ([] :: parts) = sep ++ sep.intercalate parts := by
  rw [List.intercalate_cons_of_ne_nil hparts, List.nil_append]

/-- The elements with the separator between them have lost a backslash for each separator that was
kept, and nothing else. -/
theorem intercalate_elementsFrom (hsep : sep ≠ []) (hplain : '\\' ∉ sep) (current s : List Char) :
    sep.intercalate (elementsFrom sep current s) = current.reverse ++ unescaped sep s := by
  induction current, s using scan_induction hsep with
  | nil current => simp [elementsFrom, unescaped]
  | escape current s ih =>
    have hdrop : unescaped sep ('\\' :: (sep ++ s)) = sep ++ unescaped sep s := by
      rw [unescaped, if_pos ⟨rfl, List.prefix_append sep s⟩, unescaped_append hplain]
    rw [elementsFrom_backslash_append, ih, hdrop, List.reverse_append, List.reverse_reverse,
      List.append_assoc]
  | divide current s hescape ih =>
    rw [elementsFrom_append hsep hescape,
      List.intercalate_cons_of_ne_nil (elementsFrom_ne_nil hsep [] s), ih,
      unescaped_append hplain, List.append_assoc]
    rfl
  | keep current c s hescape hfront ih =>
    have hkeep : unescaped sep (c :: s) = c :: unescaped sep s := by
      refine if_neg fun h => hescape ?_
      rw [List.cons_prefix_cons]
      exact ⟨h.1.symm, h.2⟩
    rw [elementsFrom_passing hescape hfront, ih, hkeep, List.reverse_cons, List.append_assoc]
    rfl

theorem splitChars_append_of_not_mem {u : List Char} (hu : c ∉ u) (t : List Char) :
    splitChars (c :: sep) (u ++ t) = (splitChars (c :: sep) t).modifyHead (u ++ ·) := by
  induction u with
  | nil => exact (congrFun List.modifyHead_id _).symm
  | cons d u ih =>
    rw [List.mem_cons, not_or] at hu
    have hfront : ¬ c :: sep <+: d :: (u ++ t) := fun h => hu.1 (List.cons_prefix_cons.1 h).1
    rw [List.cons_append, splitChars_cons hfront, ih hu.2, List.modifyHead_modifyHead]
    rfl

/-- Where separators do not hold the backslash, those that stand behind one do not overlap, so that
replacing them one after another leaves out every such backslash. -/
theorem intercalate_splitChars (hplain : '\\' ∉ sep) (s : List Char) :
    sep.intercalate (splitChars ('\\' :: sep) s) = unescaped sep s := by
  induction s with
  | nil =>
    rw [splitChars_undivided (by simp)]
    rfl
  | cons c s ih =>
    by_cases hescape : '\\' :: sep <+: c :: s
    · obtain ⟨hc, t, rfl⟩ := List.cons_prefix_cons.1 hescape
      have hsplit : splitChars ('\\' :: sep) (c :: (sep ++ t)) =
          [] :: splitChars ('\\' :: sep) t := by
        rw [← hc]
        exact splitChars_append (List.cons_ne_nil _ _) t
      rw [hsplit, intercalate_nil_cons (splitChars_ne_nil _ t),
        ← intercalate_modifyHead (splitChars_ne_nil _ t), ← splitChars_append_of_not_mem hplain, ih,
        unescaped, if_pos ⟨hc.symm, List.prefix_append sep t⟩]
    · have hkeep : ¬ (c = '\\' ∧ sep <+: s) := fun h =>
        hescape (List.cons_prefix_cons.2 ⟨h.1.symm, h.2⟩)
      have hhead : sep.intercalate ((splitChars ('\\' :: sep) s).modifyHead (c :: ·)) =
          [c] ++ sep.intercalate (splitChars ('\\' :: sep) s) :=
        intercalate_modifyHead (u := [c]) (splitChars_ne_nil _ s)
      rw [splitChars_cons hescape, hhead, ih, unescaped, if_neg hkeep, List.singleton_append]

/-! ## Texts -/

/-- The parts of a text between the places of a separator, found from left to right. -/
def splitOn (raw sep : String) : List String :=
  (splitChars sep.toList raw.toList).map String.ofList

/-- The text with `new` in each place of `old`, found from left to right. -/
def replaced (raw old new : String) : String :=
  new.intercalate (splitOn raw old)

theorem splitOn_eq_iff {sep : String} (hsep : sep ≠ "") {raw : String} {parts : List String} :
    splitOn raw sep = parts ↔ Splits sep.toList raw.toList (parts.map String.toList) := by
  have hinj : Function.Injective (List.map String.toList) :=
    List.map_injective_iff.2 fun _ _ => String.toList_inj.1
  have hchars : sep.toList ≠ [] := by simpa using hsep
  rw [← splitChars_eq_iff hchars, splitOn, ← hinj.eq_iff, map_toList_ofList]

theorem toList_intercalate_elements {sep : String} (hsep : sep ≠ "") (hplain : '\\' ∉ sep.toList)
    (raw : String) :
    (sep.intercalate (elements raw sep)).toList = unescaped sep.toList raw.toList := by
  have hchars : sep.toList ≠ [] := by simpa using hsep
  rw [String.toList_intercalate, elements_of_ne_empty hsep, map_toList_ofList,
    intercalate_elementsFrom hchars hplain]
  rfl

theorem toList_replaced {sep : String} (hplain : '\\' ∉ sep.toList) (raw : String) :
    (replaced raw ("\\" ++ sep) sep).toList = unescaped sep.toList raw.toList := by
  have hold : ("\\" ++ sep).toList = '\\' :: sep.toList := by simp
  rw [replaced, String.toList_intercalate, splitOn, map_toList_ofList, hold,
    intercalate_splitChars hplain]

/-- What reading a list says about the text.  If no separator stands behind a backslash, it is the
split from left to right and no other.  If the separator has no backslash, the elements with the
separator between them are the text with the separator in place of each separator that has a
backslash before it, which is the text without just those backslashes. -/
theorem elements_of_separator {sep : String} (hsep : sep ≠ "") (raw : String) :
    (¬ '\\' :: sep.toList <:+: raw.toList → ∀ parts,
        elements raw sep = parts ↔ Splits sep.toList raw.toList (parts.map String.toList)) ∧
      ('\\' ∉ sep.toList →
        sep.intercalate (elements raw sep) = replaced raw ("\\" ++ sep) sep ∧
          (sep.intercalate (elements raw sep)).toList = unescaped sep.toList raw.toList) := by
  have hchars : sep.toList ≠ [] := by simpa using hsep
  refine ⟨fun hescape parts => ?_, fun hplain => ?_⟩
  · have hsplit : elements raw sep = splitOn raw sep := by
      rw [elements_of_ne_empty hsep, elementsFrom_eq_splitChars hchars [] raw.toList hescape,
        splitOn]
      cases splitChars sep.toList raw.toList <;> rfl
    rw [hsplit, splitOn_eq_iff hsep]
  · have hjoined := toList_intercalate_elements hsep hplain raw
    refine ⟨?_, hjoined⟩
    rw [← String.toList_inj, hjoined, toList_replaced hplain]

/-- Three colons in a row, and two that stand behind a backslash. -/
theorem elements_of_separator_sample :
    let sep := "::"
    let plain := "a:::b::"
    let raw := "a::b\\::c:::\\d"
    sep ≠ "" ∧ ¬ '\\' :: sep.toList <:+: plain.toList ∧ '\\' ∉ sep.toList ∧
      Splits sep.toList plain.toList [['a'], [':', 'b'], []] ∧
      elements plain sep = ["a", ":b", ""] ∧
      replaced raw "\\::" sep = "a::b::c:::\\d" ∧
      sep.intercalate (elements raw sep) = replaced raw ("\\" ++ sep) sep := by
  intro sep plain raw
  have hsep : sep ≠ "" := by decide
  have hescape : ¬ '\\' :: sep.toList <:+: plain.toList := by decide
  have hplain : '\\' ∉ sep.toList := by decide
  have hchars : plain.toList = ['a'] ++ (sep.toList ++ ([':', 'b'] ++ (sep.toList ++ []))) := by
    decide
  have hsplits : Splits sep.toList plain.toList [['a'], [':', 'b'], []] := by
    rw [hchars]
    exact .next (by decide) (.next (by decide) (.last (by decide)))
  have hreplaced : replaced raw "\\::" sep = "a::b::c:::\\d" := by
    rw [← String.toList_inj]
    exact (toList_replaced hplain raw).trans (by decide)
  refine ⟨hsep, hescape, hplain, hsplits, ?_, hreplaced, ?_⟩
  · exact ((elements_of_separator hsep plain).1 hescape _).2 hsplits
  · exact ((elements_of_separator hsep raw).2 hplain).1

end LayeredFlags.Text
