import LayeredFlags.Proofs.Config.Dotenv
import LayeredFlags.Proofs.Config.Places
import LayeredFlags.Proofs.Config.Plain

/-!
# Comments behind entries

In the formats that are read line by line, ` #` begins a comment.  A comment behind a line changes
nothing of what the line holds, wherever the line stands in a source, as long as something is left
between the text that is cut at ` #` and the end of the line.  The blank before the `#` is taken for
a divider where a name ends the line, and trimmed away where a binding has no value: there the
comment becomes the value.
-/

namespace LayeredFlags

/-! ## Texts with a comment -/

/-- The line with a comment behind it. -/
def OneLine.remarked (line comment : OneLine) : OneLine where
  val := line.1 ++ commentTail (some comment)
  property := fun h =>
    (List.mem_append.1 h).elim line.2 (newline_not_mem_commentTail (some comment))

theorem OneLine.trimStart_remarked {line : OneLine} (h : Text.trimStart line.1 ≠ [])
    (comment : OneLine) :
    Text.trimStart (line.remarked comment).1 = Text.trimStart line.1 ++ ' ' :: '#' :: comment.1 :=
  Text.trimStart_append h

/-- The text of a comment with its mark, up to a further comment. -/
def OneLine.marked (comment : OneLine) : List Char :=
  '#' :: Text.trimEnd (Text.before [' ', '#'] comment.1)

namespace Text

variable {s t : List Char}

theorem trim_comment (hs : trimStart s ≠ []) :
    trim (s ++ ' ' :: '#' :: t) = trimStart s ++ ' ' :: '#' :: trimEnd t := by
  have hend : trimEnd (trimStart s ++ [' '] ++ '#' :: t) =
      trimStart s ++ [' '] ++ '#' :: trimEnd t := trimEnd_append_cons (by decide)
  unfold trim
  rw [trimStart_append hs]
  simpa using hend

theorem trim_comment_of_blank (hs : trimStart s = []) :
    trim (s ++ ' ' :: '#' :: t) = '#' :: trimEnd t := by
  have hblank : ∀ c ∈ s ++ [' '], isBlank c = true := by
    rw [List.forall_mem_append]
    exact ⟨List.dropWhile_eq_nil_iff.1 hs, List.forall_mem_singleton.2 (by decide)⟩
  have hsplit : s ++ ' ' :: '#' :: t = s ++ [' '] ++ '#' :: t := by simp
  rw [hsplit, trim_append hblank, trim, trimStart_cons (by decide)]
  exact trimEnd_append_cons (s := []) (by decide)

/-- A comment is cut off where no other comment begins before it. -/
theorem before_comment (hs : ¬ [' ', '#'] <:+: s) :
    before [' ', '#'] (s ++ ' ' :: '#' :: t) = s := by
  have hblank : ¬ [' ', '#'] <:+: s ++ [' ', '#'].dropLast := by
    rw [not_pair_infix_iff] at hs ⊢
    refine List.isChain_append.2 ⟨hs, List.isChain_singleton _, ?_⟩
    rintro x - y hy ⟨-, rfl⟩
    exact absurd hy (by decide)
  exact before_append hblank

theorem cut?_append_of_not_mem (ht : '#' ∉ t) (s : List Char) :
    cut? [' ', '#'] (s ++ t) = (cut? [' ', '#'] s).map fun p => (p.1, p.2 ++ t) := by
  induction s with
  | nil =>
    rw [List.nil_append, cut?_eq_none_iff.2 fun h => ht (h.subset (by simp))]
    rfl
  | cons c s ih =>
    have hfront : dropFront? [' ', '#'] (c :: (s ++ t)) =
        (dropFront? [' ', '#'] (c :: s)).map (· ++ t) := by
      cases s with
      | nil =>
        have hnext : dropFront? ['#'] t = none :=
          dropFront?_eq_none_iff.2 fun h => ht (h.subset (by simp))
        simp [dropFront?, hnext]
      | cons d s =>
        simp only [List.cons_append, dropFront?]
        split_ifs <;> rfl
    rw [List.cons_append, cut?, cut?, hfront, ih]
    cases dropFront? [' ', '#'] (c :: s) with
    | none => cases cut? [' ', '#'] s <;> rfl
    | some rest => rfl

/-- Blanks at the end of a text do not matter for what stands before its first comment. -/
theorem trimEnd_before_trimEnd (s : List Char) :
    trimEnd (before [' ', '#'] (trimEnd s)) = trimEnd (before [' ', '#'] s) := by
  obtain ⟨t, hs, ht⟩ := exists_trimEnd_append s
  have hno : '#' ∉ t := fun h => absurd (ht _ h) (by decide)
  conv_rhs => rw [← hs, before, cut?_append_of_not_mem hno]
  unfold before
  cases cut? [' ', '#'] (trimEnd s) with
  | none => exact (trimEnd_append ht).symm
  | some p => rfl

theorem trim_before_trimEnd (s : List Char) :
    trim (before [' ', '#'] (trimEnd s)) = trim (before [' ', '#'] s) := by
  rw [← trim_trimEnd, trimEnd_before_trimEnd, trim_trimEnd]

end Text

/-- A text that begins with a comment is read as that comment. -/
theorem OneLine.trim_before_marked (comment : OneLine) :
    Text.trim (Text.before [' ', '#'] ('#' :: comment.1)) = comment.marked := by
  have hcut : Text.cut? [' ', '#'] ('#' :: comment.1) =
      (Text.cut? [' ', '#'] comment.1).map fun p => ('#' :: p.1, p.2) := rfl
  have hbefore : Text.before [' ', '#'] ('#' :: comment.1) =
      '#' :: Text.before [' ', '#'] comment.1 := by
    rw [Text.before, Text.before, hcut]
    cases Text.cut? [' ', '#'] comment.1 <;> rfl
  rw [hbefore, marked]
  exact Text.trim_of_trimStart (Text.trimStart_cons (by decide))

/-! ## The effect of a comment -/

/-- What a comment behind a line with a pair does: nothing anywhere, unless the end of the line is
exposed, and then it is taken for the value. -/
structure CommentEffect (decode : ConfigDecoder) (line comment : OneLine) (pair : String × String)
    (exposed : Prop) : Prop where
  /-- The pair of the line without the comment. -/
  alone : decode (Source.ofString (String.ofList line.1)) = ⟨[pair], none⟩
  ignored : ¬ exposed →
    ∀ p : LinePlace, decode (p.put (line.remarked comment)) = decode (p.put line)
  taken : exposed → decode (Source.ofString (String.ofList (line.remarked comment).1)) =
    ⟨[(pair.1, String.ofList comment.marked)], none⟩
  /-- The value that is taken from the comment is another one. -/
  differs : exposed → String.ofList comment.marked ≠ pair.2

theorem OneLine.remarked_ne_nil (line comment : OneLine) : (line.remarked comment).1 ≠ [] :=
  List.append_ne_nil_of_right_ne_nil _ (by simp [commentTail])

/-- A line that is not exposed keeps its pair. -/
theorem CommentEffect.kept {decode : ConfigDecoder} {line comment : OneLine}
    {pair : String × String} {exposed : Prop} (h : CommentEffect decode line comment pair exposed)
    (hexposed : ¬ exposed) :
    decode (Source.ofString (String.ofList (line.remarked comment).1)) = ⟨[pair], none⟩ := by
  have hplace := h.ignored hexposed {}
  rwa [LinePlace.put_alone, LinePlace.put_alone, h.alone] at hplace

/-- The effect of a comment on the source, from its effect on the line. -/
theorem LineFormat.commentEffect {F : LineFormat} (hF : F.Trims) {line comment : OneLine}
    {pair : String × String} {exposed : Prop} (hne : line.1 ≠ [])
    (hline : F.entry (String.ofList line.1) = .ok (some pair))
    (hignored : ¬ exposed →
      F.entry (String.ofList (line.remarked comment).1) = .ok (some pair))
    (htaken : exposed → F.entry (String.ofList (line.remarked comment).1) =
      .ok (some (pair.1, String.ofList comment.marked)))
    (hdiffers : exposed → String.ofList comment.marked ≠ pair.2) :
    CommentEffect F.decode line comment pair exposed where
  alone := by
    rw [F.decode_alone hne, hline]
    rfl
  ignored h p := by
    refine F.decode_put_congr hF (line.remarked_ne_nil comment) hne ?_ p
    rw [hignored h, hline]
  taken h := by
    rw [F.decode_alone (line.remarked_ne_nil comment), htaken h]
    rfl
  differs := hdiffers

/-! ## Plain files -/

namespace Plain

/-- A line that ends with its name: no blank stands in it behind the first character of the name. -/
def EndsInName (line : List Char) : Prop :=
  ∀ c ∈ Text.trimStart line, Text.isBlank c = false

instance (line : List Char) : Decidable (EndsInName line) :=
  List.decidableBAll (fun c => Text.isBlank c = false) (Text.trimStart line)

/-- A value as it is shown, where none means `true`. -/
def shown (value : List Char) : String :=
  if value.isEmpty then "true" else String.ofList value

/-- A line that goes on behind its name. -/
theorem pairOf?_of_trimStart {line word rest : List Char} {b : Char}
    (hword : ∀ c ∈ word, Text.isBlank c = false) (hhead : ∃ c s, word = c :: s ∧ c ≠ '#')
    (hb : Text.isBlank b = true) (hline : Text.trimStart line = word ++ b :: rest) :
    pairOf? (String.ofList line) = some (String.ofList (Text.dropDashes word),
      shown (Text.trim (Text.before [' ', '#'] rest))) := by
  by_cases hrest : Text.trimEnd rest = []
  · have hblank : ∀ c ∈ rest, Text.isBlank c = true := List.rdropWhile_eq_nil_iff.1 hrest
    have htrim : Text.trim line = word ++ [] := by
      have hblanks : ∀ c ∈ b :: rest, Text.isBlank c = true := List.forall_mem_cons.2 ⟨hb, hblank⟩
      rw [← Text.trim_trimStart, hline, Text.trim_append_right hblanks,
        Text.trim_of_forall_not hword, List.append_nil]
    have hno : ¬ [' ', '#'] <:+: rest := by
      intro h
      exact absurd (hblank '#' (h.subset (by simp))) (by decide)
    have hvalue : Text.trim (Text.before [' ', '#'] rest) = [] := by
      rw [Text.before_eq_self hno, ← Text.trim_trimEnd, hrest]
      rfl
    rw [pairOf?_of_trim hword hhead (.inl rfl) htrim, hvalue]
    rfl
  · have htrim : Text.trim line = word ++ b :: Text.trimEnd rest := by
      have hend : Text.trimEnd (word ++ [b] ++ rest) = word ++ [b] ++ Text.trimEnd rest :=
        Text.trimEnd_append_of_ne_nil hrest
      rw [Text.trim, hline]
      simpa using hend
    rw [pairOf?_of_trim hword hhead (.inr ⟨b, _, rfl, hb⟩) htrim, List.tail_cons,
      Text.trim_before_trimEnd]
    rfl

theorem shown_marked (comment : OneLine) :
    shown comment.marked = String.ofList comment.marked := rfl

theorem ofList_marked_ne_true (comment : OneLine) : String.ofList comment.marked ≠ "true" := by
  intro h
  have hhead : some '#' = "true".toList.head? := by
    rw [← h, String.toList_ofList]
    rfl
  exact absurd hhead (by decide)

/-- An entry does not begin with a `#`. -/
theorem exists_head_of_entry {line : List Char} (hblank : Text.trim line ≠ [])
    (hentry : ¬ ['#'] <+: Text.trim line) : ∃ c s, Text.trimStart line = c :: s ∧ c ≠ '#' := by
  have hstart : Text.trimStart line ≠ [] := by
    intro h
    exact hblank (by rw [Text.trim, h]; rfl)
  obtain ⟨c, s, hline⟩ := List.exists_cons_of_ne_nil hstart
  refine ⟨c, s, hline, ?_⟩
  rintro rfl
  exact hentry (by simp [Text.trim_of_trimStart hline])

/-- Behind a name alone, the blank before the comment divides the name from it. -/
theorem commentEffect_of_name {line comment : OneLine}
    (hhead : ∃ c s, Text.trimStart line.1 = c :: s ∧ c ≠ '#') (hends : EndsInName line.1) :
    CommentEffect decode line comment
      (String.ofList (Text.dropDashes (Text.trimStart line.1)), "true") (EndsInName line.1) := by
  have hstart : Text.trimStart line.1 ≠ [] := by
    obtain ⟨c, s, hline, -⟩ := hhead
    simp [hline]
  have hne : line.1 ≠ [] := fun h => hstart (by rw [h]; rfl)
  have htrim : Text.trim line.1 = Text.trimStart line.1 ++ [] := by
    rw [← Text.trim_trimStart, Text.trim_of_forall_not hends, List.append_nil]
  have halone := pairOf?_of_trim hends hhead (.inl rfl) htrim
  have hcomment := pairOf?_of_trimStart hends hhead (by decide)
    (OneLine.trimStart_remarked hstart comment)
  rw [comment.trim_before_marked, shown_marked] at hcomment
  exact lineFormat.commentEffect lineFormat_trims hne
    (congrArg Except.ok halone) (fun h => absurd hends h) (fun _ => congrArg Except.ok hcomment)
    fun _ => ofList_marked_ne_true comment

/-- Where the name is divided from the rest of the line already, the comment is cut off. -/
theorem commentEffect_of_divided {line comment : OneLine}
    (hhead : ∃ c s, Text.trimStart line.1 = c :: s ∧ c ≠ '#') (hends : ¬ EndsInName line.1)
    (hno : ¬ [' ', '#'] <:+: line.1) :
    ∃ pair, CommentEffect decode line comment pair (EndsInName line.1) := by
  obtain ⟨c, s, hline, hc⟩ := hhead
  have hstart : Text.trimStart line.1 ≠ [] := by simp [hline]
  have hne : line.1 ≠ [] := fun h => hstart (by rw [h]; rfl)
  obtain ⟨word, b, rest, hsplit, hb, hword⟩ := Text.exists_first hends
  have hhead : ∃ c s, word = c :: s ∧ c ≠ '#' := by
    cases word with
    | nil =>
      rw [List.nil_append] at hsplit
      rw [Text.isBlank_of_trimStart hsplit] at hb
      cases hb
    | cons d word =>
      rw [hline, List.cons_append, List.cons.injEq] at hsplit
      exact ⟨d, word, rfl, hsplit.1 ▸ hc⟩
  have hrest : ¬ [' ', '#'] <:+: rest := by
    have hsuffix : rest <:+ Text.trimStart line.1 := hsplit ▸ ⟨word ++ [b], by simp⟩
    exact fun h => hno (h.trans (hsuffix.trans (List.dropWhile_suffix Text.isBlank)).isInfix)
  have hremarked : Text.trimStart (line.remarked comment).1 =
      word ++ b :: (rest ++ ' ' :: '#' :: comment.1) := by
    rw [OneLine.trimStart_remarked hstart, hsplit]
    simp
  have halone := pairOf?_of_trimStart hword hhead hb hsplit
  have hcomment := pairOf?_of_trimStart hword hhead hb hremarked
  rw [Text.before_comment hrest] at hcomment
  rw [Text.before_eq_self hrest] at halone
  exact ⟨_, lineFormat.commentEffect lineFormat_trims hne
    (congrArg Except.ok halone) (fun _ => congrArg Except.ok hcomment) (fun h => absurd h hends)
    fun h => absurd h hends⟩

/-- A comment behind an entry is ignored, unless the entry is a name alone with nothing behind
it. -/
theorem commentEffect_of_entry {line comment : OneLine} (hblank : Text.trim line.1 ≠ [])
    (hentry : ¬ ['#'] <+: Text.trim line.1) (hno : ¬ [' ', '#'] <:+: line.1) :
    ∃ pair, CommentEffect decode line comment pair (EndsInName line.1) ∧
      (EndsInName line.1 → pair.2 = "true") := by
  have hhead := exists_head_of_entry hblank hentry
  by_cases hends : EndsInName line.1
  · exact ⟨_, commentEffect_of_name hhead hends, fun _ => rfl⟩
  · obtain ⟨pair, heffect⟩ := commentEffect_of_divided hhead hends hno
    exact ⟨pair, heffect, fun h => absurd h hends⟩

theorem commentEffect_of_entry_sample :
    let line : OneLine := ⟨"\t--tag a#b".toList, by decide⟩
    let comment : OneLine := ⟨" why # not".toList, by decide⟩
    Text.trim line.1 ≠ [] ∧ ¬ ['#'] <+: Text.trim line.1 ∧ ¬ [' ', '#'] <:+: line.1 ∧
      ¬ EndsInName line.1 ∧
      (∃ pair, CommentEffect decode line comment pair (EndsInName line.1) ∧
        (EndsInName line.1 → pair.2 = "true")) ∧
      (decode (Source.ofString "\t--tag a#b # why # not")).pairs = [("tag", "a#b")] := by
  intro line comment
  have hblank : Text.trim line.1 ≠ [] := by decide
  have hentry : ¬ ['#'] <+: Text.trim line.1 := by decide
  have hno : ¬ [' ', '#'] <:+: line.1 := Text.not_pair_infix_iff.2 (by decide)
  exact ⟨hblank, hentry, hno, by decide, commentEffect_of_entry hblank hentry hno,
    by decide +kernel⟩

/-- Behind a name alone a comment is taken for the value, though ` #` begins it. -/
theorem comment_taken_behind_name :
    let line : OneLine := ⟨"verbose".toList, by decide⟩
    let comment : OneLine := ⟨" on".toList, by decide⟩
    Text.trim line.1 ≠ [] ∧ ¬ ['#'] <+: Text.trim line.1 ∧ ¬ [' ', '#'] <:+: line.1 ∧
      String.ofList (line.remarked comment).1 = "verbose # on" ∧
      (decode (Source.ofString "verbose")).pairs = [("verbose", "true")] ∧
      (decode (Source.ofString "verbose # on")).pairs = [("verbose", "# on")] := by
  intro line comment
  exact ⟨by decide, by decide, Text.not_pair_infix_iff.2 (by decide), by decide, by decide +kernel,
    by decide +kernel⟩

end Plain

/-! ## Dotenv files -/

namespace Dotenv

/-- A value that does not begin with a quote. -/
def Bare (raw : List Char) : Prop :=
  ∀ c ∈ (Text.trimStart raw).head?, c ≠ '\'' ∧ c ≠ '"'

/-- The key in the text before an `=`. -/
def keyText (s : List Char) : List Char :=
  Text.trim (match Text.dropFront? "export ".toList (Text.trimStart s) with
    | some rest => Text.trimStart rest
    | none => Text.trimStart s)

/-- What a line binds, from the text before its `=` and from what the text behind is read as. -/
def bound (stem : Option String) (key : List Char) (value : Except DotenvProblem (List Char)) :
    Except DotenvProblem (Option (String × String)) :=
  if (Text.trimStart key).head? = some '#' then .ok none
  else if (keyText key).isEmpty then .error .emptyKey
  else value.map fun v => some (String.ofList (dropStem stem (keyText key)), String.ofList v)

/-- A line with an `=` is read in two parts. -/
theorem binding_eq_bound (stem : Option String) {key : List Char} (hkey : '=' ∉ key)
    (raw : List Char) :
    binding stem (String.ofList (key ++ '=' :: raw)) = bound stem key (value (Text.trim raw)) := by
  have htrim : Text.trim (key ++ '=' :: raw) = Text.trimStart key ++ '=' :: Text.trimEnd raw := by
    rw [Text.trim, Text.trimStart_append_cons (by decide)]
    exact Text.trimEnd_append_cons (by decide)
  have hempty : (Text.trimStart key ++ '=' :: Text.trimEnd raw).isEmpty = false := by simp
  have hhead : (Text.trimStart key ++ '=' :: Text.trimEnd raw).head? = some '#' ↔
      (Text.trimStart key).head? = some '#' := by
    cases Text.trimStart key <;> simp
  have hexport : '=' ∉ "export ".toList := by decide
  have hcut {s : List Char} (hs : s <:+ key) :
      Text.cutWhere? (· == '=') (s ++ '=' :: Text.trimEnd raw) = some (s, Text.trimEnd raw) := by
    refine Text.cutWhere?_append (fun c hc => ?_) rfl
    rw [beq_eq_false_iff_ne]
    rintro rfl
    exact hkey (hs.subset hc)
  have hstart : Text.trimStart key <:+ key := List.dropWhile_suffix Text.isBlank
  unfold binding bound keyText
  simp only [String.toList_ofList, htrim, hempty, hhead, Bool.false_or, beq_iff_eq,
    Text.dropFront?_append_of_not_mem hexport]
  by_cases hcomment : (Text.trimStart key).head? = some '#'
  · rw [if_pos hcomment, if_pos hcomment]
  rw [if_neg hcomment, if_neg hcomment]
  cases hdrop : Text.dropFront? "export ".toList (Text.trimStart key) with
  | none => simp only [Option.map_none, hcut hstart, Text.trim_trimEnd]
  | some rest =>
    have hrest : Text.trimStart rest <:+ key :=
      (List.dropWhile_suffix Text.isBlank).trans
        (List.IsSuffix.trans ⟨_, (Text.eq_append_of_dropFront? hdrop).symm⟩ hstart)
    have hblank : Text.isBlank '=' = false := by decide
    simp only [Option.map_some, Text.trimStart_append_cons hblank, hcut hrest, Text.trim_trimEnd]

theorem of_bound {stem : Option String} {key v : List Char} {pair : String × String}
    (h : bound stem key (.ok v) = .ok (some pair)) :
    pair.2 = String.ofList v ∧
      ∀ w, bound stem key (.ok w) = .ok (some (pair.1, String.ofList w)) := by
  unfold bound at h ⊢
  split_ifs at h ⊢ with hcomment hempty
  · cases h
  · cases h
    exact ⟨rfl, fun w => rfl⟩

theorem value_of_head {s : List Char} (h : ∀ c ∈ s.head?, c ≠ '\'' ∧ c ≠ '"') :
    value s = .ok (Text.trim (Text.before [' ', '#'] s)) := by
  unfold value
  split
  · exact absurd rfl (h _ rfl).1
  · exact absurd rfl (h _ rfl).2
  · rfl

theorem value_of_bare {raw : List Char} (hbare : Bare raw) (hno : ¬ [' ', '#'] <:+: raw) :
    value (Text.trim raw) = .ok (Text.trim raw) := by
  have hprefix : Text.trim raw <+: Text.trimStart raw := List.rdropWhile_prefix Text.isBlank _
  have hinfix : Text.trim raw <:+: raw :=
    hprefix.isInfix.trans (List.dropWhile_suffix Text.isBlank).isInfix
  have hhead : ∀ c ∈ (Text.trim raw).head?, c ≠ '\'' ∧ c ≠ '"' := by
    intro c hc
    obtain ⟨s, hs⟩ := List.head?_eq_some_iff.1 hc
    obtain ⟨t, ht⟩ := hprefix
    exact hbare c (by rw [← ht, hs]; rfl)
  rw [value_of_head hhead, Text.before_eq_self fun h => hno (h.trans hinfix), Text.trim_trim]

/-- Behind an empty value the mark of a comment is no longer preceded by a blank when it is looked
for. -/
theorem value_remarked {raw : List Char} (hbare : Bare raw) (hno : ¬ [' ', '#'] <:+: raw)
    (comment : OneLine) :
    value (Text.trim (raw ++ commentTail (some comment))) =
      .ok (if Text.trim raw = [] then comment.marked else Text.trim raw) := by
  rw [commentTail]
  cases hstart : Text.trimStart raw with
  | nil =>
    have hraw : Text.trim raw = [] := by
      rw [Text.trim, hstart]
      rfl
    have hend : '#' :: Text.trimEnd comment.1 = Text.trimEnd ('#' :: comment.1) :=
      (Text.trimEnd_append_cons (s := []) (by decide)).symm
    rw [if_pos hraw, Text.trim_comment_of_blank hstart, value_of_head (by simp), hend,
      Text.trim_before_trimEnd, comment.trim_before_marked]
  | cons c s =>
    have hraw : Text.trim raw ≠ [] := by simp [Text.trim_of_trimStart hstart]
    have hsuffix : Text.trimStart raw <:+ raw := List.dropWhile_suffix Text.isBlank
    have hhead : ∀ d ∈ (Text.trimStart raw ++ ' ' :: '#' :: Text.trimEnd comment.1).head?,
        d ≠ '\'' ∧ d ≠ '"' := by
      intro d hd
      exact hbare d (by simpa [hstart] using hd)
    rw [if_neg hraw, Text.trim_comment (by simp [hstart]), value_of_head hhead,
      Text.before_comment fun h => hno (h.trans hsuffix.isInfix), Text.trim_trimStart]

/-- A comment behind a bare value is ignored, unless the value is empty. -/
theorem commentEffect_of_bare (stem : Option String) {line comment : OneLine} {key raw : List Char}
    {pair : String × String} (hline : line.1 = key ++ '=' :: raw) (hkey : '=' ∉ key)
    (hbare : Bare raw) (hno : ¬ [' ', '#'] <:+: line.1)
    (hpair : decode stem (Source.ofString (String.ofList line.1)) = ⟨[pair], none⟩) :
    CommentEffect (decode stem) line comment pair (pair.2 = "") := by
  have hne : line.1 ≠ [] := by simp [hline]
  have hraw : ¬ [' ', '#'] <:+: raw := fun h => hno (h.trans ⟨key ++ ['='], [], by simp [hline]⟩)
  have hentry : (lineFormat stem).entry (String.ofList line.1) = .ok (some pair) :=
    LineFormat.entry_of_decode_alone hne hpair
  have hbound : bound stem key (.ok (Text.trim raw)) = .ok (some pair) := by
    rw [← hentry, entry_lineFormat, hline, binding_eq_bound stem hkey, value_of_bare hbare hraw]
  obtain ⟨hvalue, hother⟩ := of_bound hbound
  have hempty : pair.2 = "" ↔ Text.trim raw = [] := by
    rw [hvalue, ← String.toList_inj, String.toList_ofList]
    rfl
  have hremarked : (lineFormat stem).entry (String.ofList (line.remarked comment).1) =
      bound stem key (.ok (if Text.trim raw = [] then comment.marked else Text.trim raw)) := by
    have hchars : (line.remarked comment).1 =
        key ++ '=' :: (raw ++ commentTail (some comment)) := by
      simp [OneLine.remarked, hline]
    rw [entry_lineFormat, hchars, binding_eq_bound stem hkey, value_remarked hbare hraw]
  refine (lineFormat stem).commentEffect (lineFormat_trims stem) hne hentry
    (fun h => ?_) (fun h => ?_) fun h heq => ?_
  · rw [hremarked, if_neg (mt hempty.2 h), hbound]
  · rw [hremarked, if_pos (hempty.1 h), hother]
  · rw [h, ← String.toList_inj, String.toList_ofList] at heq
    cases heq

theorem commentEffect_of_bare_sample :
    let line : OneLine := ⟨"export APP_PORT =\t80 ".toList, by decide⟩
    let comment : OneLine := ⟨" \"http\" # not".toList, by decide⟩
    line.1 = "export APP_PORT ".toList ++ '=' :: "\t80 ".toList ∧
      '=' ∉ "export APP_PORT ".toList ∧ Bare "\t80 ".toList ∧ ¬ [' ', '#'] <:+: line.1 ∧
      decode (some "APP") (Source.ofString (String.ofList line.1)) = ⟨[("PORT", "80")], none⟩ ∧
      CommentEffect (decode (some "APP")) line comment ("PORT", "80") (("PORT", "80").2 = "") ∧
      String.ofList (line.remarked comment).1 = "export APP_PORT =\t80  # \"http\" # not" ∧
      decode (some "APP") (Source.ofString (String.ofList (line.remarked comment).1)) =
        ⟨[("PORT", "80")], none⟩ := by
  intro line comment
  have hline : line.1 = "export APP_PORT ".toList ++ '=' :: "\t80 ".toList := by decide
  have hkey : '=' ∉ "export APP_PORT ".toList := by decide
  have hbare : Bare "\t80 ".toList := by
    have hhead : (Text.trimStart "\t80 ".toList).head? = some '8' := by decide
    intro c hc
    rw [hhead] at hc
    cases hc
    decide
  have hno : ¬ [' ', '#'] <:+: line.1 := Text.not_pair_infix_iff.2 (by decide)
  have hpair : decode (some "APP") (Source.ofString (String.ofList line.1)) =
      ⟨[("PORT", "80")], none⟩ := by
    have hentry : (lineFormat (some "APP")).entry (String.ofList line.1) =
        .ok (some ("PORT", "80")) := by decide +kernel
    rw [decode, LineFormat.decode_alone (by decide), hentry]
    rfl
  have heffect : CommentEffect (decode (some "APP")) line comment ("PORT", "80")
      (("PORT", "80").2 = "") := commentEffect_of_bare (some "APP") hline hkey hbare hno hpair
  exact ⟨hline, hkey, hbare, hno, hpair, heffect, by decide, heffect.kept (by decide)⟩

/-- Behind an empty value a comment is taken for the value, though ` #` ends bare values. -/
theorem comment_taken_behind_equals :
    let line : OneLine := ⟨"D=".toList, by decide⟩
    let comment : OneLine := ⟨" none".toList, by decide⟩
    line.1 = "D".toList ++ '=' :: [] ∧ '=' ∉ "D".toList ∧ Bare [] ∧ ¬ [' ', '#'] <:+: line.1 ∧
      String.ofList (line.remarked comment).1 = "D= # none" ∧
      (decode none (Source.ofString "D=")).pairs = [("D", "")] ∧
      (decode none (Source.ofString "D= # none")).pairs = [("D", "# none")] := by
  intro line comment
  have hbare : Bare [] := fun c hc => by cases hc
  exact ⟨by decide, by decide, hbare, Text.not_pair_infix_iff.2 (by decide), by decide,
    by decide +kernel, by decide +kernel⟩

end Dotenv

end LayeredFlags
