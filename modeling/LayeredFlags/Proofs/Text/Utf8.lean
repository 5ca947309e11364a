import LayeredFlags.Text.Utf8
import Mathlib.Tactic.IntervalCases

/-!
# Reading what was written

The bytes that write a text are read back as that text: a character of one to four bytes is taken
for what it is, whatever follows it.
-/

namespace LayeredFlags.Text.Utf8

variable {b : UInt8} {q : Begun} {rest : List UInt8} {n : Nat}

/-! ## Single bytes -/

theorem first_of_two (h : 0xC2 ≤ n ∧ n ≤ 0xDF) : first n = .begins ⟨1, 0x80, 0xBF, n - 0xC0⟩ := by
  unfold first
  rw [if_neg (by omega), if_pos (by simpa using h)]

theorem first_of_three (h : 0xE0 ≤ n ∧ n ≤ 0xEF) :
    first n = .begins ⟨2, if n = 0xE0 then 0xA0 else 0x80, if n = 0xED then 0x9F else 0xBF,
      n - 0xE0⟩ := by
  obtain ⟨hlow, hhigh⟩ := h
  interval_cases n <;> rfl

theorem first_of_four (h : 0xF0 ≤ n ∧ n ≤ 0xF4) :
    first n = .begins ⟨3, if n = 0xF0 then 0x90 else 0x80, if n = 0xF4 then 0x8F else 0xBF,
      n - 0xF0⟩ := by
  obtain ⟨hlow, hhigh⟩ := h
  interval_cases n <;> rfl

theorem scan_begins (hb : b.toNat = n) (h : first n = .begins q) :
    scan none (b :: rest) = scan (some q) rest := by
  rw [scan, hb, h]

theorem toNat_ofNat (h : n < 256) : (UInt8.ofNat n).toNat = n :=
  UInt8.toNat_ofNat_of_lt' h

theorem toNat_tail (n : Nat) : (UInt8.ofNat (n % 64 + 128)).toNat = n % 64 + 128 :=
  toNat_ofNat (by omega)

/-- The last byte of a character gives six bits. -/
theorem scan_last (bits n : Nat) (rest : List UInt8) :
    scan (some ⟨1, 0x80, 0xBF, bits⟩) (UInt8.ofNat (n % 64 + 128) :: rest) =
      some (Char.ofNat (bits * 64 + n % 64)) :: scan none rest := by
  have hrange : n % 64 + 128 ≤ 0xBF := by omega
  simp only [scan, toNat_tail, Nat.le_add_left, hrange, decide_true, Bool.and_self, if_true,
    Nat.le_refl, Nat.add_sub_cancel]

/-- So does a byte in the middle, if it is one that can stand there. -/
theorem scan_middle {owed low high bits n : Nat} (h : low ≤ n % 64 + 128 ∧ n % 64 + 128 ≤ high)
    (rest : List UInt8) :
    scan (some ⟨owed + 2, low, high, bits⟩) (UInt8.ofNat (n % 64 + 128) :: rest) =
      scan (some ⟨owed + 1, 0x80, 0xBF, bits * 64 + n % 64⟩) rest := by
  have howed : ¬ owed + 2 ≤ 1 := by omega
  simp only [scan, toNat_tail, h, decide_true, Bool.and_self, if_true, howed, if_false,
    Nat.add_sub_cancel]
  rfl

/-! ## Characters -/

theorem encodeChar_eq (c : Char) : String.utf8EncodeChar c =
    if c.toNat ≤ 127 then [UInt8.ofNat c.toNat]
    else if c.toNat ≤ 2047 then
      [UInt8.ofNat (c.toNat / 64 % 32 + 192), UInt8.ofNat (c.toNat % 64 + 128)]
    else if c.toNat ≤ 65535 then
      [UInt8.ofNat (c.toNat / 4096 % 16 + 224), UInt8.ofNat (c.toNat / 64 % 64 + 128),
        UInt8.ofNat (c.toNat % 64 + 128)]
    else
      [UInt8.ofNat (c.toNat / 262144 % 8 + 240), UInt8.ofNat (c.toNat / 4096 % 64 + 128),
        UInt8.ofNat (c.toNat / 64 % 64 + 128), UInt8.ofNat (c.toNat % 64 + 128)] := rfl

theorem scan_encodeChar (c : Char) (rest : List UInt8) :
    scan none (String.utf8EncodeChar c ++ rest) = some c :: scan none rest := by
  have hvalid : c.toNat < 0xD800 ∨ 0xDFFF < c.toNat ∧ c.toNat < 0x110000 := c.valid
  have hc : Char.ofNat c.toNat = c := Char.ofNat_toNat c
  rw [encodeChar_eq]
  generalize c.toNat = n at hvalid hc ⊢
  subst hc
  -- one case for each number of bytes: the first byte gives its bits, each one behind it six more
  split_ifs with h₁ h₂ h₃
  · rw [List.singleton_append, scan, toNat_ofNat (by omega), first, if_pos (by omega)]
  · have hhead : (UInt8.ofNat (n / 64 % 32 + 192)).toNat = n / 64 + 192 := by
      rw [toNat_ofNat (by omega)]
      omega
    have hbits : (n / 64 + 192 - 192) * 64 + n % 64 = n := by omega
    refine (scan_begins hhead (first_of_two (by omega))).trans ?_
    exact (scan_last ..).trans (by rw [hbits]; rfl)
  · have hhead : (UInt8.ofNat (n / 4096 % 16 + 224)).toNat = n / 4096 + 224 := by
      rw [toNat_ofNat (by omega)]
      omega
    have hbits : ((n / 4096 + 224 - 224) * 64 + n / 64 % 64) * 64 + n % 64 = n := by omega
    refine (scan_begins hhead (first_of_three (by omega))).trans ?_
    refine (scan_middle (by split_ifs <;> omega) _).trans ?_
    exact (scan_last ..).trans (by rw [hbits]; rfl)
  · have hhead : (UInt8.ofNat (n / 262144 % 8 + 240)).toNat = n / 262144 + 240 := by
      rw [toNat_ofNat (by omega)]
      omega
    have hbits : (((n / 262144 + 240 - 240) * 64 + n / 4096 % 64) * 64 + n / 64 % 64) * 64 +
        n % 64 = n := by omega
    refine (scan_begins hhead (first_of_four (by omega))).trans ?_
    refine (scan_middle (by split_ifs <;> omega) _).trans ?_
    refine (scan_middle (by omega) _).trans ?_
    exact (scan_last ..).trans (by rw [hbits]; rfl)

/-- Every text is read back from its bytes. -/
theorem decode?_encode (s : String) : decode? (encode s.toList) = some s := by
  have hscan (s : List Char) : scan none (encode s) = s.map some := by
    induction s with
    | nil => rfl
    | cons c s ih =>
      unfold encode at ih ⊢
      rw [List.flatMap_cons, scan_encodeChar, ih, List.map_cons]
  have hall (s : List Char) : (s.map some).mapM id = some s := by
    induction s with
    | nil => rfl
    | cons c s ih => simp [ih]
  rw [decode?, hscan, hall, Option.map_some, String.ofList_toList]

/-! ## Bytes of ASCII characters -/

/-- A byte below 128 only stands for itself. -/
theorem toNat_of_mem_encodeChar {c : Char} (hb : b.toNat < 128)
    (h : b ∈ String.utf8EncodeChar c) : c.toNat = b.toNat := by
  have hhigh (k m low : Nat) (hk : 0 < k) (hlow : 128 ≤ low) (hlt : k + low ≤ 256) :
      128 ≤ (UInt8.ofNat (m % k + low)).toNat := by
    have hm : m % k < k := Nat.mod_lt m hk
    rw [toNat_ofNat (by omega)]
    omega
  rw [encodeChar_eq] at h
  split_ifs at h with h₁ h₂ h₃
  · rw [List.mem_singleton] at h
    rw [h, toNat_ofNat (by omega)]
  -- every byte of a longer character is at least 128
  all_goals
    refine absurd (?_ : 128 ≤ b.toNat) (by omega)
    simp only [List.mem_cons, List.not_mem_nil, or_false] at h
  · rcases h with rfl | rfl <;> exact hhigh _ _ _ (by decide) (by decide) (by decide)
  · rcases h with rfl | rfl | rfl <;> exact hhigh _ _ _ (by decide) (by decide) (by decide)
  · rcases h with rfl | rfl | rfl | rfl <;> exact hhigh _ _ _ (by decide) (by decide) (by decide)

theorem encode_append (s t : List Char) : encode (s ++ t) = encode s ++ encode t :=
  List.flatMap_append

theorem mem_of_mem_encode {c : Char} {s : List Char} (hc : c.toNat < 128)
    (h : UInt8.ofNat c.toNat ∈ encode s) : c ∈ s := by
  obtain ⟨d, hd, hmem⟩ := List.mem_flatMap.1 h
  have hbyte : (UInt8.ofNat c.toNat).toNat = c.toNat := toNat_ofNat (by omega)
  have heq : d.toNat = c.toNat := (toNat_of_mem_encodeChar (by omega) hmem).trans hbyte
  rwa [← Char.ofNat_toNat c, ← heq, Char.ofNat_toNat]

theorem first_of_lt (h : n < 0x80) : first n = .whole (Char.ofNat n) :=
  if_pos (by omega)

/-- No byte below 128 goes on with a character. -/
theorem low_of_first (h : first n = .begins q) : 0x80 ≤ q.low := by
  unfold first at h
  split_ifs at h <;> cases h <;> simp

/-- A byte below 128 is a character of its own, also where it breaks one off. -/
theorem scan_append_singleton (hb : b.toNat < 0x80) {start : Option Begun}
    (hstart : ∀ q ∈ start, 0x80 ≤ q.low) (bytes : List UInt8) :
    scan start (bytes ++ [b]) = scan start bytes ++ [some (Char.ofNat b.toNat)] := by
  have hnone : ∀ q ∈ (none : Option Begun), 0x80 ≤ q.low := by simp
  have hbegun {n : Nat} {q : Begun} (h : first n = .begins q) : ∀ p ∈ some q, 0x80 ≤ p.low :=
    fun _ hp => Option.mem_some.1 hp ▸ low_of_first h
  fun_induction scan start bytes with
  | case1 => simp [scan, first_of_lt hb]
  | case2 q =>
    have hq : ¬ q.low ≤ b.toNat := by
      have hlow : 0x80 ≤ q.low := hstart q rfl
      omega
    simp [scan, first_of_lt hb, hq]
  | case3 d rest c hd ih => simp [scan, hd, ih hnone]
  | case4 d rest q hd ih => simp [scan, hd, ih (hbegun hd)]
  | case5 d rest hd ih => simp [scan, hd, ih hnone]
  | case6 q d rest hrange bits howed ih =>
    simp only [List.cons_append, scan, if_pos hrange, if_pos howed, ih hnone, bits]
  | case7 q d rest hrange bits howed ih =>
    simp only [List.cons_append, scan, if_pos hrange, if_neg howed]
    exact ih fun _ hp => Option.mem_some.1 hp ▸ Nat.le_refl _
  | case8 q d rest hrange c hd ih =>
    simp only [List.cons_append, scan, if_neg hrange, hd, ih hnone]
  | case9 q d rest hrange p hd ih =>
    simp only [List.cons_append, scan, if_neg hrange, hd, ih (hbegun hd)]
  | case10 q d rest hrange hd ih =>
    simp only [List.cons_append, scan, if_neg hrange, hd, ih hnone]

/-- Bytes with a byte below 128 behind them are a text if they are one without it. -/
theorem decode?_append_singleton (hb : b.toNat < 0x80) (bytes : List UInt8) :
    decode? (bytes ++ [b]) =
      (decode? bytes).map fun s => String.ofList (s.toList ++ [Char.ofNat b.toNat]) := by
  have hscan : scan none (bytes ++ [b]) = scan none bytes ++ [some (Char.ofNat b.toNat)] :=
    scan_append_singleton hb (by simp) bytes
  unfold decode?
  rw [hscan]
  simp only [List.mapM_append, List.mapM_cons, List.mapM_nil, id]
  cases (scan none bytes).mapM id with
  | none => rfl
  | some s => simp

end LayeredFlags.Text.Utf8
