import LayeredFlags.Proofs.Keys.Ownership
import Mathlib.Data.List.Basic

/-!
# Rules and clashes

A key is the stem in front of a name, and capitals are taken letter by letter.  So two names have
one key under some stem just when they have one under every stem, and the check of an index does
not depend on the stem.  Without the short names fewer names derive keys, and with their case kept
fewer names have one key: rules that pass the check still pass it then.
-/

namespace LayeredFlags

namespace KeyRules

variable {r r' : KeyRules} {m n : String}

/-! ## Names with one key -/

theorem fold_append (r : KeyRules) (s t : String) : r.fold (s ++ t) = r.fold s ++ r.fold t := by
  unfold fold
  split_ifs
  · rfl
  · exact Text.upper_append s t

/-- The stem plays no part in whether two names have one key. -/
theorem key_eq_iff : r.key m = r.key n ↔ r.fold (keyBody m) = r.fold (keyBody n) := by
  rw [key, key, fold_append, fold_append, ← String.toList_inj, String.toList_append,
    String.toList_append, List.append_cancel_left_eq, String.toList_inj]

/-- All names that derive keys under the first rules do so under the second, and all texts that the
first rules take for one the second take for one. -/
structure Within (r' r : KeyRules) : Prop where
  names : ∀ f, r'.names f ⊆ r.names f
  folded : ∀ s t, r'.fold s = r'.fold t → r.fold s = r.fold t

theorem within_of (hshort : r'.shortNames = true → r.shortNames = true)
    (hcase : r.caseSensitive = true → r'.caseSensitive = true) : r'.Within r := by
  constructor
  · intro f
    refine List.append_subset.2 ⟨List.subset_append_left _ _, ?_⟩
    split_ifs with hs
    · rw [names, if_pos (hshort hs)]
      exact List.subset_append_right _ _
    · exact List.nil_subset _
  · intro s t h
    by_cases hr : r.caseSensitive = true
    · have hst : s = t := by simpa only [fold, if_pos (hcase hr)] using h
      rw [hst]
    · simp only [fold, if_neg hr]
      by_cases hr' : r'.caseSensitive = true
      · have hst : s = t := by simpa only [fold, if_pos hr'] using h
        rw [hst]
      · simpa only [fold, if_neg hr'] using h

end KeyRules

namespace Chain

variable {c : Chain} {r r' : KeyRules}

/-- No two flags have names that the rules take for one text.  The stem plays no part in it. -/
def NamesApart (c : Chain) (r : KeyRules) : Prop :=
  ∀ id f, c.flagAt? id = some f → ∀ m ∈ r.names f, ∀ id' g, c.flagAt? id' = some g →
    ∀ n ∈ r.names g, r.fold (keyBody n) = r.fold (keyBody m) → id' = id

theorem keysApart_iff_names : c.KeysApart r ↔ c.NamesApart r := by
  constructor
  · intro h id f hf m hm id' g hg n hn hkey
    have hown := h id f (r.key m) hf (KeyRules.mem_keys_iff.2 ⟨m, hm, rfl⟩)
    exact hown.only id' g hg (KeyRules.mem_keys_iff.2 ⟨n, hn, KeyRules.key_eq_iff.2 hkey⟩)
  · intro h id f key hf hkey
    refine ⟨hf, hkey, fun id' g hg hkey' => ?_⟩
    obtain ⟨m, hm, rfl⟩ := KeyRules.mem_keys_iff.1 hkey
    obtain ⟨n, hn, hmn⟩ := KeyRules.mem_keys_iff.1 hkey'
    exact h id f hf m hm id' g hg n hn (KeyRules.key_eq_iff.1 hmn)

theorem NamesApart.within (h : c.NamesApart r) (hr : r'.Within r) : c.NamesApart r' := by
  intro id f hf m hm id' g hg n hn hkey
  exact h id f hf m (hr.names f hm) id' g hg n (hr.names g hn) (hr.folded _ _ hkey)

end Chain

namespace KeyIndex

theorem clash?_eq_none_iff_names {c : Chain} {r : KeyRules} :
    (ofChain r c).clash? = none ↔ c.NamesApart r :=
  clash?_eq_none_iff.trans Chain.keysApart_iff_names

theorem clash?_of_within {c : Chain} {r r' : KeyRules} (hr : r'.Within r)
    (h : (ofChain r c).clash? = none) : (ofChain r' c).clash? = none :=
  clash?_eq_none_iff_names.2 ((clash?_eq_none_iff_names.1 h).within hr)

/-- An index has no clash when the names of its flags are apart, whatever the stem.  Then there is
none without the short names either, and none where letters keep their case. -/
theorem clash?_of_rules (c : Chain) (r : KeyRules) :
    ((ofChain r c).clash? = none ↔ c.NamesApart r) ∧
      (∀ stem, (ofChain { r with stem } c).clash? = none ↔ (ofChain r c).clash? = none) ∧
      ((ofChain { r with shortNames := true } c).clash? = none →
        (ofChain { r with shortNames := false } c).clash? = none) ∧
      ((ofChain { r with caseSensitive := false } c).clash? = none →
        (ofChain { r with caseSensitive := true } c).clash? = none) := by
  have hstem (stem : Option String) : c.NamesApart { r with stem } ↔ c.NamesApart r := Iff.rfl
  have hshort : ({ r with shortNames := false } : KeyRules).Within { r with shortNames := true } :=
    KeyRules.within_of (fun _ => rfl) id
  have hcase :
      ({ r with caseSensitive := true } : KeyRules).Within { r with caseSensitive := false } :=
    KeyRules.within_of id fun _ => rfl
  refine ⟨clash?_eq_none_iff_names, fun stem => ?_, clash?_of_within hshort,
    clash?_of_within hcase⟩
  rw [clash?_eq_none_iff_names, clash?_eq_none_iff_names, hstem]

-- `-l` and `--L` have one key only with short names on and in capitals; either change parts them
example :
    let level : Flag :=
      .ofDecl { names := { short := some 'l', long := some "level" }, value := .ofBool false }
    let capital : Flag := .ofDecl { names := { long := some "L" }, value := .ofBool false }
    let c : Chain := { own := { name := "app", flags := [level, capital] } }
    let clash? (r : KeyRules) := (ofChain r c).clash?
    clash? { shortNames := true } = some (.duplicateKey "L" "--level" "--L") ∧
      clash? {} = none ∧ clash? { shortNames := true, caseSensitive := true } = none := by
  decide +kernel

end KeyIndex

end LayeredFlags
