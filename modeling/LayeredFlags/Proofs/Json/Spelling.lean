import LayeredFlags.Json.Reader
import Mathlib.Data.List.Forall2

/-!
# The spellings of a string

Within quotes a character may stand as it is, by the letter of its escape, or by one or two code
units of four hexadecimal digits in either case.  Reading gives back the string whichever spelling
each of its characters has, and stops behind the closing quote.
-/

namespace LayeredFlags.Json

/-! ## Spellings -/

/-- The letters that may follow a backslash, with the characters they stand for. -/
def escapeLetters : List (Char × Char) :=
  [('"', '"'), ('\\', '\\'), ('/', '/'), ('b', '\x08'), ('f', '\x0C'), ('n', '\n'), ('r', '\r'),
    ('t', '\t')]

/-- A digit for a number below sixteen, in either case. -/
def IsHexDigit (n : Nat) (c : Char) : Prop :=
  "0123456789abcdef".toList[n]? = some c ∨ "0123456789ABCDEF".toList[n]? = some c

/-- A code unit by its four digits. -/
inductive UnitSpelled : Nat → List Char → Prop
  | digits {i j k l : Nat} {a b c d : Char} (hi : IsHexDigit i a) (hj : IsHexDigit j b)
      (hk : IsHexDigit k c) (hl : IsHexDigit l d) :
      UnitSpelled (16 * (16 * (16 * i + j) + k) + l) ['\\', 'u', a, b, c, d]

/-- A character within quotes. -/
inductive CharSpelled : Char → List Char → Prop
  | raw {c : Char} (hcontrol : 0x20 ≤ c.toNat) (hquote : c ≠ '"') (hslash : c ≠ '\\') :
      CharSpelled c [c]
  | letter {e c : Char} (h : (e, c) ∈ escapeLetters) : CharSpelled c ['\\', e]
  | unit {c : Char} {t : List Char} (ht : UnitSpelled c.toNat t) : CharSpelled c t
  | pair {c : Char} {t u : List Char} (hc : 0x10000 ≤ c.toNat)
      (ht : UnitSpelled (0xD800 + (c.toNat - 0x10000) / 0x400) t)
      (hu : UnitSpelled (0xDC00 + (c.toNat - 0x10000) % 0x400) u) : CharSpelled c (t ++ u)

/-- A string in quotes. -/
inductive StringSpelled : List Char → List Char → Prop
  | quoted {s : List Char} {spellings : List (List Char)}
      (h : List.Forall₂ CharSpelled s spellings) :
      StringSpelled s ('"' :: (spellings.flatten ++ ['"']))

/-! ## Reading one character -/

theorem digitIn?_of_isHexDigit {n : Nat} {c : Char} (h : IsHexDigit n c) :
    Number.digitIn? 16 c = some n := by
  have hlower : ∀ i : Fin 16, Number.digitIn? 16 ("0123456789abcdef".toList[i]) = some i.1 := by
    decide
  have hupper : ∀ i : Fin 16, Number.digitIn? 16 ("0123456789ABCDEF".toList[i]) = some i.1 := by
    decide
  rcases h with h | h
  · obtain ⟨hn, rfl⟩ := List.getElem?_eq_some_iff.1 h
    exact hlower ⟨n, hn⟩
  · obtain ⟨hn, rfl⟩ := List.getElem?_eq_some_iff.1 h
    exact hupper ⟨n, hn⟩

/-- Pieces that a text is read as, whatever follows it. -/
def ReadsAs (t : List Char) (pieces : List StringPiece) : Prop :=
  ∀ rest, stringBody? (t ++ rest) = (stringBody? rest).map fun p => (pieces ++ p.1, p.2)

/-- Pieces that stand for a text, whatever follows them. -/
def StandsFor (pieces : List StringPiece) (s : List Char) : Prop :=
  ∀ more, stringText? (pieces ++ more) = (stringText? more).map (s ++ ·)

theorem ReadsAs.append {t u : List Char} {p q : List StringPiece} (ht : ReadsAs t p)
    (hu : ReadsAs u q) : ReadsAs (t ++ u) (p ++ q) := by
  intro rest
  rw [List.append_assoc, ht, hu]
  cases stringBody? rest <;> simp

theorem StandsFor.append {p q : List StringPiece} {s t : List Char} (hp : StandsFor p s)
    (hq : StandsFor q t) : StandsFor (p ++ q) (s ++ t) := by
  intro more
  rw [List.append_assoc, hp, hq]
  cases stringText? more <;> simp

theorem readsAs_raw {c : Char} (hcontrol : 0x20 ≤ c.toNat) (hquote : c ≠ '"') (hslash : c ≠ '\\') :
    ReadsAs [c] [.char c] := by
  intro rest
  have hplain : ¬ (c == '\\' || decide (c.toNat < 0x20)) = true := by
    simp [hslash, hcontrol]
  rw [List.singleton_append, stringBody?, if_neg hplain]
  · rfl
  · exact hquote
  all_goals
    intros
    simp_all

theorem readsAs_letter {e c : Char} (h : (e, c) ∈ escapeLetters) :
    ReadsAs ['\\', e] [.char c] := by
  have hescaped : ∀ p ∈ escapeLetters, p.1 ≠ 'u' ∧ escaped? p.1 = some p.2 := by decide
  obtain ⟨hu, he⟩ := hescaped _ h
  intro rest
  change stringBody? ('\\' :: e :: rest) = _
  rw [stringBody?, he]
  · cases stringBody? rest <;> rfl
  · exact fun _ _ _ _ _ hunit => absurd hunit hu

theorem readsAs_unit {n : Nat} {t : List Char} (h : UnitSpelled n t) : ReadsAs t [.unit n] := by
  obtain ⟨hi, hj, hk, hl⟩ := h
  rename_i i j k l a b c d
  have hcode : codeUnit? a b c d = some (16 * (16 * (16 * i + j) + k) + l) := by
    simp [codeUnit?, Number.natIn?, digitIn?_of_isHexDigit hi, digitIn?_of_isHexDigit hj,
      digitIn?_of_isHexDigit hk, digitIn?_of_isHexDigit hl]
  intro rest
  change stringBody? ('\\' :: 'u' :: a :: b :: c :: d :: rest) = _
  rw [stringBody?, hcode]
  cases stringBody? rest <;> rfl

/-! ## The meaning of one character -/

theorem standsFor_char (c : Char) : StandsFor [.char c] [c] := fun _ => rfl

/-- No character has the number of a surrogate. -/
theorem not_surrogate (c : Char) :
    isHighSurrogate c.toNat = false ∧ isLowSurrogate c.toNat = false := by
  have hvalid : c.toNat < 0xD800 ∨ 0xDFFF < c.toNat ∧ c.toNat < 0x110000 := c.valid
  simp [isHighSurrogate, isLowSurrogate]
  omega

theorem standsFor_unit (c : Char) : StandsFor [.unit c.toNat] [c] := by
  obtain ⟨hhigh, hlow⟩ := not_surrogate c
  intro more
  cases more <;> simp [stringText?, hhigh, hlow]

theorem standsFor_pair {c : Char} (hc : 0x10000 ≤ c.toNat) :
    StandsFor [.unit (0xD800 + (c.toNat - 0x10000) / 0x400),
      .unit (0xDC00 + (c.toNat - 0x10000) % 0x400)] [c] := by
  have hvalid : c.toNat < 0x110000 := by
    have h : c.toNat < 0xD800 ∨ 0xDFFF < c.toNat ∧ c.toNat < 0x110000 := c.valid
    omega
  have hhigh : isHighSurrogate (0xD800 + (c.toNat - 0x10000) / 0x400) = true := by
    simp [isHighSurrogate]
    omega
  have hlow : isLowSurrogate (0xDC00 + (c.toNat - 0x10000) % 0x400) = true := by
    simp [isLowSurrogate]
    omega
  have hsum : 0x10000 + (0xD800 + (c.toNat - 0x10000) / 0x400 - 0xD800) * 0x400 +
      (0xDC00 + (c.toNat - 0x10000) % 0x400 - 0xDC00) = c.toNat := by omega
  intro more
  simp only [List.cons_append, List.nil_append, stringText?, hhigh, hlow, if_true, hsum,
    Char.ofNat_toNat]

/-! ## Whole strings -/

/-- A character is read as pieces that stand for it, whichever spelling it has. -/
theorem CharSpelled.pieces {c : Char} {t : List Char} (h : CharSpelled c t) :
    ∃ pieces, ReadsAs t pieces ∧ StandsFor pieces [c] := by
  cases h with
  | raw hcontrol hquote hslash =>
    exact ⟨_, readsAs_raw hcontrol hquote hslash, standsFor_char c⟩
  | letter h => exact ⟨_, readsAs_letter h, standsFor_char c⟩
  | unit ht => exact ⟨_, readsAs_unit ht, standsFor_unit c⟩
  | pair hc ht hu =>
    exact ⟨_, (readsAs_unit ht).append (readsAs_unit hu), standsFor_pair hc⟩

theorem exists_pieces {s : List Char} {spellings : List (List Char)}
    (h : List.Forall₂ CharSpelled s spellings) :
    ∃ pieces, ReadsAs spellings.flatten pieces ∧ StandsFor pieces s := by
  induction h with
  | nil =>
    refine ⟨[], fun rest => ?_, fun more => ?_⟩
    · exact Option.map_id'.symm
    · exact Option.map_id'.symm
  | cons hc _ ih =>
    obtain ⟨p, hp, hpc⟩ := hc.pieces
    obtain ⟨q, hq, hqs⟩ := ih
    exact ⟨p ++ q, hp.append hq, hpc.append hqs⟩

/-- A text without quotes, backslashes and control characters may stand as it is. -/
theorem stringSpelled_of_plain {s : List Char}
    (h : ∀ c ∈ s, 0x20 ≤ c.toNat ∧ c ≠ '"' ∧ c ≠ '\\') : StringSpelled s ('"' :: (s ++ ['"'])) := by
  have hraw : List.Forall₂ CharSpelled s (s.map ([·])) := by
    rw [List.forall₂_map_right_iff, List.forall₂_same]
    exact fun c hc => .raw (h c hc).1 (h c hc).2.1 (h c hc).2.2
  have hflatten : (s.map ([·])).flatten = s := by simp [← List.flatMap_def]
  have hquoted := StringSpelled.quoted hraw
  rwa [hflatten] at hquoted

/-- A string in quotes is read up to its closing quote, and stands for itself. -/
theorem StringSpelled.read {s t : List Char} (h : StringSpelled s t) :
    ∃ body, t = '"' :: body ∧ ∃ pieces, stringText? pieces = some s ∧
      ∀ rest, stringBody? (body ++ rest) = some (pieces, rest) := by
  cases h with
  | quoted h =>
    obtain ⟨pieces, hread, hstand⟩ := exists_pieces h
    refine ⟨_, rfl, pieces, ?_, fun rest => ?_⟩
    · simpa [stringText?] using hstand []
    · rw [List.append_assoc, hread]
      simp [stringBody?]

end LayeredFlags.Json
