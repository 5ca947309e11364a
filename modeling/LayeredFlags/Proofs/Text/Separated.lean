import LayeredFlags.Proofs.Text.Cutting
import LayeredFlags.Text.Separated
import Mathlib.Data.List.Basic

/-!
# Writing separated lists

Texts are written as one with a character between them and a backslash before each such character
inside them.  They are read back from it, provided that no text but the last ends in a backslash,
as this would keep the separator behind it.  Conversely every text is what is written for the
elements that are read from it.
-/

namespace LayeredFlags.Text

variable {sep : Char} {s rest current : List Char}

/-- A text with a backslash before each separator. -/
def escaped (sep : Char) (s : List Char) : List Char :=
  s.flatMap fun c => if c = sep then ['\\', sep] else [c]

/-- Texts as one, with a separator between them. -/
def joinedChars (sep : Char) : List (List Char) → List Char
  | [] => []
  | [s] => escaped sep s
  | s :: rest => escaped sep s ++ sep :: joinedChars sep rest

/-- Texts as one, with a separator between them. -/
def joined (sep : Char) (texts : List String) : String :=
  String.ofList (joinedChars sep (texts.map String.toList))

/-- No text but the last ends in a backslash. -/
def Joinable (texts : List String) : Prop :=
  ∀ t ∈ texts.dropLast, t.toList.getLast? ≠ some '\\'

instance (texts : List String) : Decidable (Joinable texts) :=
  List.decidableBAll (fun t : String => t.toList.getLast? ≠ some '\\') texts.dropLast

/-! ## The scan for a separator -/

section Scan

variable {sep s current : List Char} {c : Char}

theorem elementsFrom_cons (sep current : List Char) (c : Char) (s : List Char) :
    elementsFrom sep current (c :: s) =
      match dropFront? ('\\' :: sep) (c :: s) with
      | some t => elementsFrom sep (sep.reverse ++ current) t
      | none =>
        match if sep = [] then none else dropFront? sep (c :: s) with
        | some t => current.reverse :: elementsFrom sep [] t
        | none => elementsFrom sep (c :: current) s := by
  rw [elementsFrom]
  split
  next t h => simp only [h]
  next h =>
    simp only [h]
    split
    next t h' => simp only [h']
    next h' => simp only [h']

theorem elementsFrom_backslash_append (sep current s : List Char) :
    elementsFrom sep current ('\\' :: (sep ++ s)) =
      elementsFrom sep (sep.reverse ++ current) s := by
  have hfront : dropFront? ('\\' :: sep) ('\\' :: (sep ++ s)) = some s :=
    dropFront?_append ('\\' :: sep) s
  simp only [elementsFrom_cons, hfront]

theorem elementsFrom_append (hsep : sep ≠ []) (hescape : ¬ '\\' :: sep <+: sep ++ s) :
    elementsFrom sep current (sep ++ s) = current.reverse :: elementsFrom sep [] s := by
  obtain ⟨c, rest, rfl⟩ := List.exists_cons_of_ne_nil hsep
  have hkeep : dropFront? ('\\' :: c :: rest) (c :: (rest ++ s)) = none :=
    dropFront?_eq_none_iff.2 hescape
  have hfront : dropFront? (c :: rest) (c :: (rest ++ s)) = some s :=
    dropFront?_append (c :: rest) s
  rw [List.cons_append, elementsFrom_cons, hkeep, if_neg hsep, hfront]

theorem elementsFrom_passing (hescape : ¬ '\\' :: sep <+: c :: s) (h : ¬ sep <+: c :: s) :
    elementsFrom sep current (c :: s) = elementsFrom sep (c :: current) s := by
  rw [elementsFrom_cons, dropFront?_eq_none_iff.2 hescape, dropFront?_eq_none_iff.2 h, ite_self]

/-- The scan for a separator ends, keeps a separator behind a backslash, divides, or goes on. -/
theorem scan_induction (hsep : sep ≠ []) {P : List Char → List Char → Prop}
    (nil : ∀ current, P current [])
    (escape : ∀ current s, P (sep.reverse ++ current) s → P current ('\\' :: (sep ++ s)))
    (divide : ∀ current s, ¬ '\\' :: sep <+: sep ++ s → P [] s → P current (sep ++ s))
    (keep : ∀ current c s, ¬ '\\' :: sep <+: c :: s → ¬ sep <+: c :: s → P (c :: current) s →
      P current (c :: s))
    (current s : List Char) : P current s := by
  induction hn : s.length using Nat.strongRecOn generalizing current s with
  | ind n ih =>
    subst hn
    cases s with
    | nil => exact nil current
    | cons c s =>
      by_cases hescape : '\\' :: sep <+: c :: s
      · obtain ⟨t, ht⟩ := hescape
        rw [← ht]
        refine escape current t (ih _ ?_ _ t rfl)
        rw [← ht, List.length_append, List.length_cons]
        omega
      · by_cases hfront : sep <+: c :: s
        · obtain ⟨t, ht⟩ := hfront
          rw [← ht] at hescape ⊢
          refine divide current t hescape (ih _ ?_ [] t rfl)
          have := List.length_pos_iff.2 hsep
          rw [← ht, List.length_append]
          omega
        · exact keep current c s hescape hfront (ih _ (by simp) (c :: current) s rfl)

theorem elementsFrom_ne_nil (hsep : sep ≠ []) (current s : List Char) :
    elementsFrom sep current s ≠ [] := by
  induction current, s using scan_induction hsep with
  | nil current => simp [elementsFrom]
  | escape current s ih => rwa [elementsFrom_backslash_append]
  | divide current s hescape _ => simp [elementsFrom_append hsep hescape]
  | keep current c s hescape hfront ih => rwa [elementsFrom_passing hescape hfront]

end Scan

theorem map_toList_ofList (texts : List (List Char)) :
    (texts.map String.ofList).map String.toList = texts := by
  simp

theorem elements_of_ne_empty {sep : String} (hsep : sep ≠ "") (raw : String) :
    elements raw sep = (elementsFrom sep.toList [] raw.toList).map String.ofList :=
  if_neg hsep

theorem elements_ne_nil (raw sep : String) : elements raw sep ≠ [] := by
  by_cases hsep : sep = ""
  · rw [elements, if_pos hsep]
    exact List.cons_ne_nil raw []
  · rw [elements_of_ne_empty hsep, Ne, List.map_eq_nil_iff]
    exact elementsFrom_ne_nil (by simpa using hsep) [] raw.toList

/-! ### Separators of one character -/

theorem escape_prefix_iff {c : Char} :
    ['\\', sep] <+: c :: s ↔ c = '\\' ∧ s.head? = some sep := by
  rw [List.cons_prefix_cons, List.head?_eq_some_iff, eq_comm]
  exact and_congr_right fun _ => ⟨fun ⟨t, ht⟩ => ⟨t, ht.symm⟩, fun ⟨t, ht⟩ => ⟨t, ht.symm⟩⟩

theorem not_escape_at_sep (hsep : sep ≠ '\\') (s : List Char) : ¬ ['\\', sep] <+: sep :: s :=
  fun h => hsep (escape_prefix_iff.1 h).1

theorem sep_prefix_iff {c : Char} : [sep] <+: c :: s ↔ c = sep := by
  simp [List.cons_prefix_cons, eq_comm]

theorem elementsFrom_escape :
    elementsFrom [sep] current ('\\' :: sep :: s) = elementsFrom [sep] (sep :: current) s :=
  elementsFrom_backslash_append [sep] current s

theorem elementsFrom_sep (hsep : sep ≠ '\\') :
    elementsFrom [sep] current (sep :: s) = current.reverse :: elementsFrom [sep] [] s :=
  elementsFrom_append (List.cons_ne_nil sep []) (not_escape_at_sep hsep s)

theorem elementsFrom_other {c : Char} (hc : c ≠ sep) (hescape : c = '\\' → s.head? ≠ some sep) :
    elementsFrom [sep] current (c :: s) = elementsFrom [sep] (c :: current) s :=
  elementsFrom_passing (fun h => hescape (escape_prefix_iff.1 h).1 (escape_prefix_iff.1 h).2)
    (mt sep_prefix_iff.1 hc)

theorem elements_singleton (sep : Char) (raw : String) :
    elements raw (String.singleton sep) =
      (elementsFrom [sep] [] raw.toList).map String.ofList := by
  rw [elements_of_ne_empty (by simp), String.toList_singleton]

/-- The scan for a separator of one character. -/
theorem letter_scan_induction (sep : Char) {P : List Char → List Char → Prop}
    (nil : ∀ current, P current [])
    (escape : ∀ current s, P (sep :: current) s → P current ('\\' :: sep :: s))
    (divide : ∀ current s, P [] s → P current (sep :: s))
    (keep : ∀ current c s, c ≠ sep → (c = '\\' → s.head? ≠ some sep) → P (c :: current) s →
      P current (c :: s))
    (current s : List Char) : P current s := by
  induction current, s using scan_induction (List.cons_ne_nil sep []) with
  | nil current => exact nil current
  | escape current s ih => exact escape current s ih
  | divide current s _ ih => exact divide current s ih
  | keep current c s hescape hfront ih =>
    refine keep current c s (mt sep_prefix_iff.2 hfront) (fun hc hs => hescape ?_) ih
    exact escape_prefix_iff.2 ⟨hc, hs⟩

/-! ## Reading -/

theorem head?_escaped_append (hsep : sep ≠ '\\') (hrest : s = [] → rest.head? ≠ some sep) :
    (escaped sep s ++ rest).head? ≠ some sep := by
  cases s with
  | nil => exact hrest rfl
  | cons c s =>
    unfold escaped
    rw [List.flatMap_cons]
    split_ifs with hc
    · simpa using hsep.symm
    · simpa using hc

/-- What an escaped text adds to the element that is being read. -/
theorem elementsFrom_escaped (hsep : sep ≠ '\\')
    (hend : s.getLast? = some '\\' → rest.head? ≠ some sep) :
    elementsFrom [sep] current (escaped sep s ++ rest) =
      elementsFrom [sep] (s.reverse ++ current) rest := by
  induction s generalizing current with
  | nil => rfl
  | cons c s ih =>
    have htail : s.getLast? = some '\\' → rest.head? ≠ some sep := by
      intro h
      exact hend (by rw [List.getLast?_cons, h]; rfl)
    rw [List.reverse_cons, List.append_assoc, List.singleton_append, ← ih htail]
    unfold escaped
    rw [List.flatMap_cons]
    split_ifs with hc
    · rw [hc]
      exact elementsFrom_escape
    · -- a backslash that stands last in the text must not meet a separator behind it
      refine elementsFrom_other hc fun hbackslash => head?_escaped_append hsep ?_
      rintro rfl
      exact hend (by rw [hbackslash]; rfl)

theorem elementsFrom_joinedChars (hsep : sep ≠ '\\') {texts : List (List Char)} (hne : texts ≠ [])
    (hends : ∀ t ∈ texts.dropLast, t.getLast? ≠ some '\\') :
    elementsFrom [sep] [] (joinedChars sep texts) = texts := by
  induction texts with
  | nil => exact absurd rfl hne
  | cons s texts ih =>
    cases texts with
    | nil =>
      have hread : elementsFrom [sep] [] (escaped sep s ++ []) =
          elementsFrom [sep] (s.reverse ++ []) [] := elementsFrom_escaped hsep nofun
      rw [List.append_nil, List.append_nil, elementsFrom, List.reverse_reverse] at hread
      exact hread
    | cons t texts =>
      rw [List.dropLast_cons_cons, List.forall_mem_cons] at hends
      rw [joinedChars, elementsFrom_escaped hsep fun h => absurd h hends.1, elementsFrom_sep hsep,
        List.append_nil, List.reverse_reverse, ih (List.cons_ne_nil t texts) hends.2]
      simp

/-- Texts that are written as one are read back from it. -/
theorem elements_joined (hsep : sep ≠ '\\') {texts : List String} (hne : texts ≠ [])
    (hjoin : Joinable texts) : elements (joined sep texts) (String.singleton sep) = texts := by
  have hread : elementsFrom [sep] [] (joinedChars sep (texts.map String.toList)) =
      texts.map String.toList :=
    elementsFrom_joinedChars hsep (by simpa using hne)
      (by simpa [Joinable, ← List.map_dropLast] using hjoin)
  have hback : (texts.map String.toList).map String.ofList = texts := by simp
  rw [elements_singleton, joined, String.toList_ofList, hread, hback]

/-- Only the single empty text is written as nothing. -/
theorem joined_ne_empty {texts : List String} (hne : texts ≠ []) (hempty : texts ≠ [""]) :
    joined sep texts ≠ "" := by
  have hchars : joinedChars sep (texts.map String.toList) ≠ [] := by
    match texts with
    | [] => exact absurd rfl hne
    | [t] =>
      have ht : t.toList ≠ [] := by simpa using hempty
      obtain ⟨c, s, hs⟩ := List.exists_cons_of_ne_nil ht
      rw [List.map_singleton, joinedChars, hs, escaped, List.flatMap_cons]
      split_ifs <;> simp
    | t :: u :: texts => simp [joinedChars]
  simpa [joined] using hchars

/-! ## Writing what was read -/

theorem joinedChars_cons {texts : List (List Char)} (h : texts ≠ []) :
    joinedChars sep (s :: texts) = escaped sep s ++ sep :: joinedChars sep texts := by
  obtain ⟨t, texts, rfl⟩ := List.exists_cons_of_ne_nil h
  rfl

theorem escaped_append (sep : Char) (s t : List Char) :
    escaped sep (s ++ t) = escaped sep s ++ escaped sep t :=
  List.flatMap_append

/-- The elements of a text are written as that text, the beginning of the first one included. -/
theorem joinedChars_elementsFrom (hsep : sep ≠ '\\') (current s : List Char) :
    joinedChars sep (elementsFrom [sep] current s) = escaped sep current.reverse ++ s := by
  induction current, s using letter_scan_induction sep with
  | nil current => simp [elementsFrom, joinedChars]
  | escape current s ih =>
    have hescaped : escaped sep [sep] = ['\\', sep] := by simp [escaped]
    rw [elementsFrom_escape, ih, List.reverse_cons, escaped_append, hescaped, List.append_assoc]
    rfl
  | divide current s ih =>
    have hne : elementsFrom [sep] [] s ≠ [] := elementsFrom_ne_nil (List.cons_ne_nil sep []) [] s
    rw [elementsFrom_sep hsep, joinedChars_cons hne, ih]
    rfl
  | keep current c s hc hescape ih =>
    have hescaped : escaped sep [c] = [c] := by simp [escaped, hc]
    rw [elementsFrom_other hc hescape, ih, List.reverse_cons, escaped_append, hescaped,
      List.append_assoc]
    rfl

/-- No element but the last ends in a backslash, unless the scan begins behind one and before a
separator. -/
theorem getLast?_of_mem_elementsFrom (hsep : sep ≠ '\\') (current s : List Char)
    (hbegin : current.head? = some '\\' → s.head? ≠ some sep) :
    ∀ t ∈ (elementsFrom [sep] current s).dropLast, t.getLast? ≠ some '\\' := by
  induction current, s using letter_scan_induction sep with
  | nil current => simp [elementsFrom]
  | escape current s ih =>
    rw [elementsFrom_escape]
    exact ih fun h => absurd (Option.some.inj h) hsep
  | divide current s ih =>
    have hlast : current.reverse.getLast? ≠ some '\\' := by
      rw [List.getLast?_reverse]
      exact fun h => hbegin h rfl
    have hnone : ([] : List Char).head? ≠ some '\\' := by simp
    have hne : elementsFrom [sep] [] s ≠ [] := elementsFrom_ne_nil (List.cons_ne_nil sep []) [] s
    rw [elementsFrom_sep hsep, List.dropLast_cons_of_ne_nil hne, List.forall_mem_cons]
    exact ⟨hlast, ih fun h => absurd h hnone⟩
  | keep current c s hc hescape ih =>
    rw [elementsFrom_other hc hescape]
    exact ih fun h => hescape (Option.some.inj h)

theorem joined_elements (hsep : sep ≠ '\\') (raw : String) :
    joined sep (elements raw (String.singleton sep)) = raw := by
  rw [joined, elements_singleton, map_toList_ofList, joinedChars_elementsFrom hsep]
  exact String.ofList_toList

theorem joinable_elements (hsep : sep ≠ '\\') (raw : String) :
    Joinable (elements raw (String.singleton sep)) := by
  unfold Joinable
  rw [elements_singleton, ← List.map_dropLast, List.forall_mem_map]
  intro t ht
  rw [String.toList_ofList]
  exact getLast?_of_mem_elementsFrom hsep [] raw.toList nofun t ht

/-- Reading and writing are inverse to one another between all texts and the lists that are not
empty and in which no text but the last ends in a backslash. -/
theorem elements_inverse_joined (hsep : sep ≠ '\\') :
    (∀ raw : String, joined sep (elements raw (String.singleton sep)) = raw ∧
        elements raw (String.singleton sep) ≠ [] ∧
        Joinable (elements raw (String.singleton sep))) ∧
      ∀ texts : List String, texts ≠ [] → Joinable texts →
        elements (joined sep texts) (String.singleton sep) = texts :=
  ⟨fun raw => ⟨joined_elements hsep raw, elements_ne_nil raw _, joinable_elements hsep raw⟩,
    fun _ hne hjoin => elements_joined hsep hne hjoin⟩

theorem elements_inverse_joined_sample :
    let raw := "a\\,b,,\\c\\"
    let texts := ["a,b", "", "\\c\\"]
    ',' ≠ '\\' ∧ texts ≠ [] ∧ Joinable texts ∧ joined ',' texts = raw ∧
      elements raw (String.singleton ',') = texts ∧
      joined ',' (elements raw (String.singleton ',')) = raw := by
  intro raw texts
  have hsep : ',' ≠ '\\' := by decide
  have hinverse := elements_inverse_joined hsep
  have hjoin : Joinable texts := by decide
  have hraw : joined ',' texts = raw := by decide
  refine ⟨hsep, by decide, hjoin, hraw, ?_, (hinverse.1 raw).1⟩
  rw [← hraw]
  exact hinverse.2 texts (by decide) hjoin

end LayeredFlags.Text
