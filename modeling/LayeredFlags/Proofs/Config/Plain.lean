import LayeredFlags.Config.Plain
import LayeredFlags.Proofs.Config.Lines

/-!
# Writing plain files

A file is written as lines with a name and a value each, lines with a name alone, and lines that
say nothing.  Reading it gives the pairs of the first two kinds, in order, and nothing else,
however many dashes, blanks and comments stand around them.
-/

namespace LayeredFlags.Plain

/-! ## Written lines -/

/-- A name that a line can hold. -/
structure Name where
  text : String
  ne_empty : text ≠ ""
  no_blank : text.toList.any Text.isBlank = false
  no_dash : ¬ ['-'] <+: text.toList
  no_comment : ¬ ['#'] <+: text.toList

/-- A value that a line can hold. -/
structure Content where
  text : String
  ne_empty : text ≠ ""
  trimmed : Text.trim text.toList = text.toList
  no_newline : '\n' ∉ text.toList
  no_comment : ¬ ['#'] <+: text.toList
  no_inner_comment : ¬ [' ', '#'] <:+: text.toList

/-- What stands between a name and its value. -/
abbrev Gap :=
  { s : List Char // s ≠ [] ∧ s.all (fun c => c = ' ' ∨ c = '\t') = true }

/-- What stands behind a name without a value. -/
abbrev Tail :=
  { s : List Char // '\n' ∉ s ∧ s.all Text.isBlank = true }

/-- A line of a file. -/
inductive Line where
  /-- A name and a value, and perhaps a comment. -/
  | entry (dashes : Nat) (name : Name) (gap : Gap) (value : Content) (comment : Option OneLine)
  /-- A name alone. -/
  | bare (dashes : Nat) (name : Name) (tail : Tail)
  /-- Blanks, or a comment from the first character that is none. -/
  | passed (s : OneLine) (h : Text.trim s.1 = [] ∨ ['#'] <+: Text.trim s.1)

/-- A name behind some dashes. -/
def Name.chars (name : Name) (dashes : Nat) : List Char :=
  List.replicate dashes '-' ++ name.text.toList

/-- The characters of a line. -/
def Line.chars : Line → List Char
  | .entry dashes name gap value comment =>
    name.chars dashes ++ (gap.1 ++ (value.text.toList ++ commentTail comment))
  | .bare dashes name tail => name.chars dashes ++ tail.1
  | .passed s _ => s.1

/-- The pair of a line, if it holds one. -/
def Line.pair? : Line → Option (String × String)
  | .entry _ name _ value _ => some (name.text, value.text)
  | .bare _ name _ => some (name.text, "true")
  | .passed _ _ => none

theorem Name.isBlank_of_mem {name : Name} {dashes : Nat} {c : Char} (hc : c ∈ name.chars dashes) :
    Text.isBlank c = false := by
  rcases List.mem_append.1 hc with hdash | hname
  · rw [List.eq_of_mem_replicate hdash]
    decide
  · exact Bool.eq_false_iff.2 (List.any_eq_false.1 name.no_blank c hname)

theorem Name.newline_not_mem (name : Name) (dashes : Nat) : '\n' ∉ name.chars dashes :=
  fun h => absurd (Name.isBlank_of_mem h) (by decide)

theorem Gap.eq_of_mem (gap : Gap) {c : Char} (hc : c ∈ gap.1) : c = ' ' ∨ c = '\t' :=
  of_decide_eq_true (List.all_eq_true.1 gap.2.2 c hc)

theorem Gap.isBlank (gap : Gap) : ∀ c ∈ gap.1, Text.isBlank c = true := by
  intro c hc
  rcases gap.eq_of_mem hc with rfl | rfl <;> decide

/-- The line of its characters. -/
def Line.line (l : Line) : OneLine where
  val := l.chars
  property := by
    cases l with
    | entry dashes name gap value comment =>
      have hgap : '\n' ∉ gap.1 := fun h => absurd (gap.eq_of_mem h) (by decide)
      simp [Line.chars, name.newline_not_mem, hgap, value.no_newline, newline_not_mem_commentTail]
    | bare dashes name tail => simp [Line.chars, name.newline_not_mem, tail.2.1]
    | passed s _ => exact s.2

/-! ## Reading one line -/

theorem Name.exists_cons (name : Name) (dashes : Nat) :
    ∃ c s, name.chars dashes = c :: s ∧ Text.isBlank c = false ∧ c ≠ '#' := by
  have hname : name.text.toList ≠ [] := by simpa using name.ne_empty
  obtain ⟨c, s, hchars⟩ := List.exists_cons_of_ne_nil (show name.chars dashes ≠ [] by
    simp [Name.chars, hname])
  refine ⟨c, s, hchars, Name.isBlank_of_mem (hchars ▸ List.mem_cons_self), ?_⟩
  rintro rfl
  cases dashes with
  | zero => exact name.no_comment ⟨s, hchars.symm⟩
  | succ n => exact absurd hchars (by simp [Name.chars, List.replicate_succ])

theorem Name.dropDashes_chars (name : Name) (dashes : Nat) :
    Text.dropDashes (name.chars dashes) = name.text.toList := by
  have hdash : ∀ c ∈ List.replicate dashes '-', (c == '-') = true := by simp
  unfold Text.dropDashes Name.chars
  rw [List.dropWhile_append_of_pos hdash]
  cases hname : name.text.toList with
  | nil => rfl
  | cons c s =>
    refine List.dropWhile_cons_of_neg ?_
    rw [beq_iff_eq]
    rintro rfl
    exact name.no_dash (by simp [hname])

/-- A line that begins with a word, up to what its value is. -/
theorem pairOf?_of_trim {line word rest : List Char}
    (hword : ∀ c ∈ word, Text.isBlank c = false) (hhead : ∃ c s, word = c :: s ∧ c ≠ '#')
    (hrest : rest = [] ∨ ∃ c s, rest = c :: s ∧ Text.isBlank c = true)
    (htrim : Text.trim line = word ++ rest) :
    pairOf? (String.ofList line) =
      let value := Text.trim (Text.before [' ', '#'] rest.tail)
      some (String.ofList (Text.dropDashes word),
        if value.isEmpty then "true" else String.ofList value) := by
  have hbegin : ((word ++ rest).isEmpty || (word ++ rest).head? == some '#') = false := by
    obtain ⟨c, s, rfl, hc⟩ := hhead
    simpa using hc
  have hcut : (Text.cutWhere? Text.isBlank (word ++ rest)).getD (word ++ rest, []) =
      (word, rest.tail) := by
    rcases hrest with rfl | ⟨c, s, rfl, hc⟩
    · rw [List.append_nil, Text.cutWhere?_of_forall_not hword]
      rfl
    · rw [Text.cutWhere?_append hword hc]
      rfl
  unfold pairOf?
  simp only [String.toList_ofList, htrim, hbegin, hcut, Bool.false_eq_true, if_false]

/-- A line that holds a name, up to what its value is. -/
theorem read_of_trim {line rest : List Char} {name : Name} {dashes : Nat}
    (hrest : rest = [] ∨ ∃ c s, rest = c :: s ∧ Text.isBlank c = true)
    (htrim : Text.trim line = name.chars dashes ++ rest) :
    pairOf? (String.ofList line) =
      let value := Text.trim (Text.before [' ', '#'] rest.tail)
      some (name.text, if value.isEmpty then "true" else String.ofList value) := by
  have hhead : ∃ c s, name.chars dashes = c :: s ∧ c ≠ '#' := by
    obtain ⟨c, s, hchars, -, hc⟩ := name.exists_cons dashes
    exact ⟨c, s, hchars, hc⟩
  rw [pairOf?_of_trim (fun c hc => Name.isBlank_of_mem hc) hhead hrest htrim, name.dropDashes_chars,
    String.ofList_toList]

/-- Trimming a line that ends in a value leaves the value and the beginning of the comment. -/
theorem Content.trim_append (value : Content) (comment : Option OneLine) {c : Char}
    (hc : Text.isBlank c = false) (s : List Char) :
    ∃ rest, (rest = [] ∨ ∃ t, rest = ' ' :: '#' :: t) ∧
      Text.trim (c :: (s ++ (value.text.toList ++ commentTail comment))) =
        c :: (s ++ (value.text.toList ++ rest)) := by
  cases comment with
  | none =>
    have hne : value.text.toList ≠ [] := by simpa using value.ne_empty
    obtain ⟨v, d, hvalue⟩ : ∃ v d, value.text.toList = v ++ [d] :=
      ⟨_, _, (List.dropLast_append_getLast hne).symm⟩
    have hd : Text.isBlank d = false := Text.isBlank_last (hvalue ▸ value.trimmed)
    have htrim : Text.trim (c :: (s ++ v ++ d :: [])) = c :: (s ++ v ++ d :: []) :=
      Text.trim_cons_append_cons hc hd
    refine ⟨[], .inl rfl, ?_⟩
    simpa [commentTail, hvalue] using htrim
  | some t =>
    have htrim : Text.trim (c :: (s ++ value.text.toList ++ [' '] ++ '#' :: t.1)) =
        c :: (s ++ value.text.toList ++ [' '] ++ '#' :: Text.trimEnd t.1) :=
      Text.trim_cons_append_cons hc (by decide)
    refine ⟨' ' :: '#' :: Text.trimEnd t.1, .inr ⟨_, rfl⟩, ?_⟩
    simpa [commentTail] using htrim

/-- No comment begins in blanks and a value, nor with a blank behind them. -/
theorem Content.not_infix (value : Content) {blanks : List Char} (h : '#' ∉ blanks) :
    ¬ [' ', '#'] <:+: blanks ++ value.text.toList ++ [' '] := by
  have hblanks : ¬ [' ', '#'] <:+: blanks := fun hpair => h (hpair.subset (by simp))
  have hhead : ∀ c ∈ value.text.toList.head?, c ≠ '#' := by
    rintro c hc rfl
    obtain ⟨s, hs⟩ := List.head?_eq_some_iff.1 hc
    exact value.no_comment ⟨s, hs.symm⟩
  rw [Text.not_pair_infix_iff, List.isChain_append, List.isChain_append]
  refine ⟨⟨Text.not_pair_infix_iff.1 hblanks, Text.not_pair_infix_iff.1 value.no_inner_comment, ?_⟩,
    List.isChain_singleton _, ?_⟩
  · exact fun _ _ c hc heq => hhead c hc heq.2
  · rintro _ - c hc ⟨-, rfl⟩
    exact absurd hc (by decide)

theorem Content.trim_before (value : Content) {blanks rest : List Char}
    (hblanks : ∀ c ∈ blanks, Text.isBlank c = true)
    (hrest : rest = [] ∨ ∃ t, rest = ' ' :: '#' :: t) :
    Text.trim (Text.before [' ', '#'] (blanks ++ (value.text.toList ++ rest))) =
      value.text.toList := by
  have hno : ¬ [' ', '#'] <:+: blanks ++ value.text.toList ++ [' '] :=
    value.not_infix fun h => absurd (hblanks _ h) (by decide)
  have hbefore : Text.before [' ', '#'] (blanks ++ value.text.toList ++ rest) =
      blanks ++ value.text.toList := by
    rcases hrest with rfl | ⟨t, rfl⟩
    · rw [List.append_nil]
      exact Text.before_eq_self fun h => hno (h.trans List.infix_append_left)
    · exact Text.before_append hno
  rw [← List.append_assoc, hbefore, Text.trim_append hblanks, value.trimmed]

theorem Line.read_chars (l : Line) : pairOf? (String.ofList l.chars) = l.pair? := by
  cases l with
  | entry dashes name gap value comment =>
    obtain ⟨g, blanks, hgap⟩ := List.exists_cons_of_ne_nil gap.2.1
    obtain ⟨c, s, hname, hc, -⟩ := name.exists_cons dashes
    obtain ⟨rest, hrest, htrim⟩ := value.trim_append comment hc (s ++ gap.1)
    have hg : Text.isBlank g = true := gap.isBlank g (by simp [hgap])
    have hblanks : ∀ c ∈ blanks, Text.isBlank c = true :=
      fun c hc => gap.isBlank c (by simp [hgap, hc])
    have hline : Text.trim (Line.entry dashes name gap value comment).chars =
        name.chars dashes ++ (g :: (blanks ++ (value.text.toList ++ rest))) := by
      simpa [Line.chars, hname, hgap] using htrim
    have hempty : value.text.toList.isEmpty = false := by simpa using value.ne_empty
    rw [read_of_trim (.inr ⟨g, _, rfl, hg⟩) hline, List.tail_cons, value.trim_before hblanks hrest]
    simp [hempty, Line.pair?]
  | bare dashes name tail =>
    have hline : Text.trim (Line.bare dashes name tail).chars = name.chars dashes ++ [] := by
      rw [Line.chars, Text.trim_append_right (List.all_eq_true.1 tail.2.2),
        Text.trim_of_forall_not fun c hc => Name.isBlank_of_mem hc, List.append_nil]
    rw [read_of_trim (.inl rfl) hline]
    rfl
  | passed s h =>
    have hskip : ((Text.trim s.1).isEmpty || (Text.trim s.1).head? == some '#') = true := by
      rcases h with h | ⟨t, h⟩
      · simp [h]
      · simp [← h]
    show pairOf? (String.ofList s.1) = none
    unfold pairOf?
    simp only [String.toList_ofList, hskip, if_true]

/-! ## Reading the file -/

theorem lineFormat_trims : lineFormat.Trims := by
  intro s t h
  simp only [entry_lineFormat, pairOf?, String.toList_ofList, h]

/-- No line is bad, so decoding goes on to the end of the lines. -/
theorem decode_eq (s : Source) : decode s = ⟨s.lines.lines.filterMap pairOf?,
    s.lines.failure.map fun reason => .undecodable (.unreadable reason)⟩ := by
  have hlines : s.lines.lines.map lineFormat.entry = (s.lines.lines.map pairOf?).map .ok := by
    rw [List.map_map]
    rfl
  rw [decode, LineFormat.decode, LineFormat.decodeLines_of_map_eq hlines, List.reduceOption,
    List.filterMap_map, Function.id_comp]
  rfl

/-- A file of lines is read as their pairs, in order. -/
theorem decode_layout (lines : List Line) (last : Option Line) :
    decode (Source.ofString (Source.fileText Line.line lines last)) =
      ⟨(lines ++ last.toList).filterMap Line.pair?, none⟩ := by
  have hread (l : Line) : lineFormat.entry (String.ofList l.line.1) = .ok l.pair? :=
    congrArg Except.ok l.read_chars
  exact LineFormat.decode_fileText lineFormat_trims rfl hread lines last

theorem decode_layout_sample :
    let tag : Name := ⟨"tag#", by decide, by decide, by decide, by decide⟩
    let words : Content :=
      ⟨"a#b  -c", by decide, by decide, by decide, by decide, by decide +kernel⟩
    let lines : List Line :=
      [.passed ⟨"\t # tag x".toList, by decide⟩ (by decide),
        .entry 3 tag ⟨"\t ".toList, by decide⟩ words (some ⟨"# tag y\r".toList, by decide⟩),
        .passed ⟨[], by decide⟩ (by decide),
        .bare 0 tag ⟨" \t\r".toList, by decide⟩]
    let last : Line := .entry 0 tag ⟨" ".toList, by decide⟩ words none
    let text := Source.fileText Line.line lines (some last)
    text = "\t # tag x\n---tag#\t a#b  -c ## tag y\r\n\ntag# \t\r\ntag# a#b  -c" ∧
      decode (Source.ofString text) =
        ⟨[("tag#", "a#b  -c"), ("tag#", "true"), ("tag#", "a#b  -c")], none⟩ := by
  intro tag words lines last text
  exact ⟨by decide +kernel, decode_layout lines (some last)⟩

end LayeredFlags.Plain
