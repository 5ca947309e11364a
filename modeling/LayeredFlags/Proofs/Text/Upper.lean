import LayeredFlags.Text.Upper
import Mathlib.Data.List.Basic

/-!
# Upper and lower case

No letter that has an upper case of its own is itself the upper case of a letter, so a text in
capitals is its own upper case.  The tables are compared as sets of code points, each written as a
number with one bit for a code point.  The lower case of the ASCII letters concerns no other
character, and has no capital left.
-/

namespace LayeredFlags.Text

variable {c d : Char} {n : Nat}

/-! ## Code points of the tables -/

/-- The code points of a run. -/
def CaseRun.codes (r : CaseRun) : List Nat :=
  List.range' r.first ((r.last - r.first) / r.step + 1) r.step

/-- The code points with an upper case of their own, run by run. -/
def lowerCodes : List (List Nat) :=
  caseRuns.toList.map CaseRun.codes ++ expandingCases.toList.map ([·.1])

/-- The code points that upper cases are made of, run by run. -/
def upperCodes : List (List Nat) :=
  (caseRuns.toList.map fun r => r.codes.map fun n : Nat => (n + r.shift).toNat) ++
    expandingCases.toList.map (·.2)

theorem CaseRun.mem_codes_of_covers {r : CaseRun} (h : r.covers n = true) : n ∈ r.codes := by
  simp only [covers, Bool.and_eq_true, decide_eq_true_eq, beq_iff_eq] at h
  obtain ⟨⟨hfirst, hlast⟩, hstep⟩ := h
  rw [codes, List.mem_range']
  refine ⟨(n - r.first) / r.step, ?_, ?_⟩
  · exact Nat.lt_succ_of_le (Nat.div_le_div_right (by omega))
  · have := Nat.div_add_mod (n - r.first) r.step
    omega

/-! ## Sets of numbers as bits -/

/-- The number with the bits of some numbers. -/
def mask (ns : List Nat) : Nat :=
  ns.foldr (1 <<< · ||| ·) 0

/-- The number with the bits of some lists of numbers. -/
def maskAll (nss : List (List Nat)) : Nat :=
  nss.foldr (mask · ||| ·) 0

theorem testBit_mask {ns : List Nat} (h : n ∈ ns) : (mask ns).testBit n = true := by
  induction ns with
  | nil => cases h
  | cons m ns ih =>
    have hcons : mask (m :: ns) = 1 <<< m ||| mask ns := rfl
    rw [hcons, Nat.testBit_or, Nat.one_shiftLeft]
    rcases List.mem_cons.1 h with rfl | h
    · rw [Nat.testBit_two_pow_self, Bool.true_or]
    · rw [ih h, Bool.or_true]

theorem testBit_maskAll {nss : List (List Nat)} {ns : List Nat} (hns : ns ∈ nss) (h : n ∈ ns) :
    (maskAll nss).testBit n = true := by
  induction nss with
  | nil => cases hns
  | cons ms nss ih =>
    have hcons : maskAll (ms :: nss) = mask ms ||| maskAll nss := rfl
    rw [hcons, Nat.testBit_or]
    rcases List.mem_cons.1 hns with rfl | hns
    · rw [testBit_mask h, Bool.true_or]
    · rw [ih hns, Bool.or_true]

/-- Lists whose bits do not meet have no number in common. -/
theorem not_mem_of_maskAll {mss nss : List (List Nat)} (h : maskAll mss &&& maskAll nss = 0)
    {ms ns : List Nat} (hms : ms ∈ mss) (hm : n ∈ ms) (hns : ns ∈ nss) : n ∉ ns := by
  intro hn
  have hboth : (maskAll mss &&& maskAll nss).testBit n = true := by
    rw [Nat.testBit_and, testBit_maskAll hms hm, testBit_maskAll hns hn, Bool.and_self]
  rw [h, Nat.zero_testBit] at hboth
  cases hboth

theorem lowerCodes_upperCodes : maskAll lowerCodes &&& maskAll upperCodes = 0 := by
  decide +kernel

/-! ## Characters -/

theorem asciiRun_mem : (⟨0x61, 0x7A, 1, -32⟩ : CaseRun) ∈ caseRuns.toList :=
  List.mem_cons_self ..

/-- A character outside the tables is its own upper case. -/
theorem upperChar_of_not_mem (h : ∀ ns ∈ lowerCodes, c.toNat ∉ ns) : upperChar c = [c] := by
  have hrun (r : CaseRun) (hr : r ∈ caseRuns.toList) : r.covers c.toNat = false := by
    rw [← Bool.not_eq_true]
    intro hcovers
    exact h r.codes (List.mem_append_left _ (List.mem_map_of_mem hr))
      (CaseRun.mem_codes_of_covers hcovers)
  unfold upperChar
  by_cases hascii : c.toNat < 0x80
  · have hno : (decide (0x61 ≤ c.toNat) && decide (c.toNat ≤ 0x7A)) = false := by
      have := hrun _ asciiRun_mem
      simpa [CaseRun.covers, Nat.mod_one] using this
    simp only [if_pos hascii, hno, Bool.false_eq_true, if_false]
  · have hexpanding : expandingCases.find? (·.1 == c.toNat) = none := by
      rw [← Array.find?_toList, List.find?_eq_none]
      intro p hp hpc
      have hmem : [p.1] ∈ lowerCodes := List.mem_append_right _ (List.mem_map_of_mem hp)
      exact h [p.1] hmem (List.mem_singleton.2 (beq_iff_eq.1 hpc).symm)
    have hruns : caseRuns.find? (·.covers c.toNat) = none := by
      rw [← Array.find?_toList, List.find?_eq_none]
      intro r hr hcovers
      rw [hrun r hr] at hcovers
      cases hcovers
    simp only [if_neg hascii, hexpanding, hruns]

/-- A character is its own upper case, or its upper case is in the tables. -/
theorem upperChar_cases (c : Char) :
    upperChar c = [c] ∨ ∃ ns ∈ upperCodes, ∀ d ∈ upperChar c, ∃ n ∈ ns, d = Char.ofNat n := by
  have hrun (r : CaseRun) (hr : r ∈ caseRuns.toList) (hcovers : r.covers c.toNat = true) :
      ∃ ns ∈ upperCodes, (c.toNat + r.shift).toNat ∈ ns :=
    ⟨_, List.mem_append_left _ (List.mem_map_of_mem hr),
      List.mem_map_of_mem (CaseRun.mem_codes_of_covers hcovers)⟩
  unfold upperChar
  by_cases hascii : c.toNat < 0x80
  · simp only [if_pos hascii]
    split_ifs with hlower
    · obtain ⟨ns, hns, hmem⟩ := hrun _ asciiRun_mem (by
        simpa [CaseRun.covers, Nat.mod_one] using hlower)
      refine .inr ⟨ns, hns, fun d hd => ⟨_, hmem, ?_⟩⟩
      have hcode : c.toNat - 0x20 = (c.toNat + (-32 : Int)).toNat := by omega
      rw [List.mem_singleton.1 hd, hcode]
    · exact .inl rfl
  · simp only [if_neg hascii]
    split
    next k codes hfind =>
      have hmem : codes ∈ upperCodes := by
        rw [← Array.find?_toList] at hfind
        exact List.mem_append_right _ (List.mem_map_of_mem (List.mem_of_find?_eq_some hfind))
      refine .inr ⟨codes, hmem, fun d hd => ?_⟩
      obtain ⟨n, hn, rfl⟩ := List.mem_map.1 hd
      exact ⟨n, hn, rfl⟩
    next =>
      split
      next r hfind =>
        rw [← Array.find?_toList] at hfind
        have hcovers : r.covers c.toNat = true :=
          List.find?_some (p := fun r : CaseRun => r.covers c.toNat) hfind
        obtain ⟨ns, hns, hmem⟩ := hrun r (List.mem_of_find?_eq_some hfind) hcovers
        exact .inr ⟨ns, hns, fun d hd => ⟨_, hmem, List.mem_singleton.1 hd⟩⟩
      next => exact .inl rfl

theorem toNat_ofNat (h : n.isValidChar) : (Char.ofNat n).toNat = n := by
  unfold Char.ofNat
  rw [dif_pos h]
  rfl

/-- The upper case consists of characters that are their own upper case. -/
theorem upperChar_of_mem (h : d ∈ upperChar c) : upperChar d = [d] := by
  rcases upperChar_cases c with hc | ⟨ns, hns, hc⟩
  · rw [hc, List.mem_singleton] at h
    rw [h, hc]
  · obtain ⟨n, hn, rfl⟩ := hc d h
    by_cases hvalid : n.isValidChar
    · refine upperChar_of_not_mem fun ms hms hm => ?_
      rw [toNat_ofNat hvalid] at hm
      exact not_mem_of_maskAll lowerCodes_upperCodes hms hm hns hn
    · -- a number that is no code point would be read as the null character
      have hnull : Char.ofNat n = '\x00' := dif_neg hvalid
      rw [hnull]
      rfl

/-! ## Texts -/

theorem upper_upper (s : String) : upper (upper s) = upper s := by
  have hfixed (cs : List Char) (h : ∀ c ∈ cs, upperChar c = [c]) : cs.flatMap upperChar = cs := by
    induction cs with
    | nil => rfl
    | cons c cs ih =>
      rw [List.forall_mem_cons] at h
      rw [List.flatMap_cons, h.1, ih h.2, List.singleton_append]
  unfold upper
  rw [String.toList_ofList, hfixed]
  intro d hd
  obtain ⟨c, -, hc⟩ := List.mem_flatMap.1 hd
  exact upperChar_of_mem hc

/-- A character that no upper case is made of stands in an upper case only where it stood before. -/
theorem mem_of_mem_upper {s : String} (hd : ∀ ns ∈ upperCodes, d.toNat ∉ ns) (hnull : d ≠ '\x00')
    (h : d ∈ (upper s).toList) : d ∈ s.toList := by
  rw [upper, String.toList_ofList] at h
  obtain ⟨c, hcs, hdc⟩ := List.mem_flatMap.1 h
  rcases upperChar_cases c with hc | ⟨ns, hns, hc⟩
  · rw [hc, List.mem_singleton] at hdc
    rwa [hdc]
  · obtain ⟨n, hn, rfl⟩ := hc d hdc
    by_cases hvalid : n.isValidChar
    · rw [toNat_ofNat hvalid] at hd
      exact absurd hn (hd ns hns)
    · exact absurd (dif_neg hvalid) hnull

theorem mem_upper_of_mem {s : String} (hd : upperChar d = [d]) (h : d ∈ s.toList) :
    d ∈ (upper s).toList := by
  rw [upper, String.toList_ofList]
  exact List.mem_flatMap.2 ⟨d, h, hd ▸ List.mem_singleton_self d⟩

/-! ## Lower case -/

theorem asciiLowerChar_of_not_capital (hc : c.toNat < 65 ∨ 90 < c.toNat) :
    asciiLowerChar c = c := by
  unfold asciiLowerChar
  refine if_neg fun h => ?_
  rw [Bool.and_eq_true, decide_eq_true_eq, decide_eq_true_eq] at h
  have hlow : 65 ≤ c.toNat := h.1
  have hhigh : c.toNat ≤ 90 := h.2
  omega

/-- A character is its own lower case, or its lower case is a small letter. -/
theorem asciiLowerChar_cases (c : Char) :
    asciiLowerChar c = c ∨ 97 ≤ (asciiLowerChar c).toNat ∧ (asciiLowerChar c).toNat ≤ 122 := by
  by_cases hc : c.toNat < 65 ∨ 90 < c.toNat
  · exact .inl (asciiLowerChar_of_not_capital hc)
  · have hlow : 'A' ≤ c := show 65 ≤ c.toNat by omega
    have hhigh : c ≤ 'Z' := show c.toNat ≤ 90 by omega
    have hcode : (asciiLowerChar c).toNat = c.toNat + 0x20 := by
      rw [asciiLowerChar, if_pos (by simp [hlow, hhigh])]
      exact toNat_ofNat (.inl (by omega))
    omega

theorem asciiLowerChar_asciiLowerChar (c : Char) :
    asciiLowerChar (asciiLowerChar c) = asciiLowerChar c := by
  rcases asciiLowerChar_cases c with hc | hc
  · rw [hc, hc]
  · exact asciiLowerChar_of_not_capital (.inr (by omega))

/-- A character that is no letter is the lower case of itself only. -/
theorem asciiLowerChar_eq_iff (hd : d.toNat < 65) : asciiLowerChar c = d ↔ c = d := by
  constructor
  · intro h
    rcases asciiLowerChar_cases c with hc | hc
    · rw [← hc, h]
    · rw [h] at hc
      omega
  · rintro rfl
    exact asciiLowerChar_of_not_capital (.inl hd)

theorem asciiLowerChar_eq_dot : asciiLowerChar c = '.' ↔ c = '.' :=
  asciiLowerChar_eq_iff (by decide)

theorem asciiLowerChar_eq_slash : asciiLowerChar c = '/' ↔ c = '/' :=
  asciiLowerChar_eq_iff (by decide)

theorem asciiLower_asciiLower (s : String) : asciiLower (asciiLower s) = asciiLower s := by
  simp only [asciiLower, String.toList_ofList, List.map_map, Function.comp_def,
    asciiLowerChar_asciiLowerChar]

end LayeredFlags.Text
