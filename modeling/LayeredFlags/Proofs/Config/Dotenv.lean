import LayeredFlags.Config.Dotenv
import LayeredFlags.Proofs.Config.Lines

/-!
# Writing dotenv files

A key and any value are written as one line, the value in double quotes.  The file is read back as
exactly these pairs, in order, whatever characters the values hold and whatever the comments say.
-/

namespace LayeredFlags.Dotenv

/-! ## Written lines -/

/-- A character as it stands in double quotes. -/
def escapedChar (c : Char) : List Char :=
  if c = '\\' ∨ c = '"' then ['\\', c]
  else if c = '\n' then ['\\', 'n']
  else if c = '\t' then ['\\', 't']
  else [c]

/-- A text as it stands in double quotes. -/
def escaped (s : List Char) : List Char :=
  s.flatMap escapedChar

/-- A key that a line can begin with. -/
structure Key where
  text : String
  ne_empty : text ≠ ""
  trimmed : Text.trim text.toList = text.toList
  no_equals : '=' ∉ text.toList
  no_newline : '\n' ∉ text.toList
  no_comment : ¬ ['#'] <+: text.toList
  no_export : ¬ "export ".toList <+: text.toList

/-- A key and a value, and what else their line holds. -/
structure Entry where
  key : Key
  value : String
  exported : Bool
  comment : Option OneLine

/-- The pair of an entry. -/
def Entry.pair (e : Entry) : String × String :=
  (e.key.text, e.value)

/-- A key and a value in double quotes, and what follows the closing one. -/
def assignmentChars (key : Key) (value : String) (rest : List Char) : List Char :=
  key.text.toList ++ '=' :: '"' :: (escaped value.toList ++ '"' :: rest)

/-- The characters of an entry. -/
def Entry.chars (e : Entry) : List Char :=
  (if e.exported then "export ".toList else []) ++
    assignmentChars e.key e.value (commentTail e.comment)

theorem newline_not_mem_escaped (s : List Char) : '\n' ∉ escaped s := by
  intro h
  obtain ⟨c, -, hc⟩ := List.mem_flatMap.1 h
  unfold escapedChar at hc
  split_ifs at hc with h₁ h₂ h₃
  · rcases h₁ with rfl | rfl <;> exact absurd hc (by decide)
  · exact absurd hc (by decide)
  · exact absurd hc (by decide)
  · exact h₂ (List.mem_singleton.1 hc).symm

theorem Entry.newline_not_mem_chars (e : Entry) : '\n' ∉ e.chars := by
  have hexport : '\n' ∉ (if e.exported then "export ".toList else []) := by
    split_ifs <;> decide
  have hassign : '\n' ∉ assignmentChars e.key e.value (commentTail e.comment) := by
    simp [assignmentChars, e.key.no_newline, newline_not_mem_escaped, newline_not_mem_commentTail]
  exact fun h => (List.mem_append.1 h).elim hexport hassign

/-- The line of an entry. -/
def Entry.line (e : Entry) : OneLine :=
  ⟨e.chars, e.newline_not_mem_chars⟩

/-! ## Reading one line -/

theorem doubleQuoted?_escaped (s rest : List Char) :
    doubleQuoted? (escaped s ++ '"' :: rest) = some s := by
  induction s with
  | nil => rfl
  | cons c s ih =>
    unfold escaped at ih ⊢
    rw [List.flatMap_cons, List.append_assoc]
    by_cases hc : c = '\\' ∨ c = '"'
    · rcases hc with rfl | rfl <;> simp [escapedChar, doubleQuoted?, ih]
    · by_cases hn : c = '\n'
      · subst hn
        simp [escapedChar, doubleQuoted?, ih]
      · by_cases ht : c = '\t'
        · subst ht
          simp [escapedChar, doubleQuoted?, ih]
        · rw [not_or] at hc
          simp [escapedChar, doubleQuoted?, ih, hc, hn, ht]

theorem Key.exists_cons (key : Key) :
    ∃ c s, key.text.toList = c :: s ∧ Text.isBlank c = false ∧ c ≠ '#' := by
  have hne : key.text.toList ≠ [] := by simpa using key.ne_empty
  obtain ⟨c, s, hkey⟩ := List.exists_cons_of_ne_nil hne
  refine ⟨c, s, hkey, Text.isBlank_head (hkey ▸ key.trimmed), ?_⟩
  rintro rfl
  exact key.no_comment (by simp [hkey])

theorem Key.isEmpty_toList (key : Key) : key.text.toList.isEmpty = false := by
  obtain ⟨c, s, hkey, -⟩ := key.exists_cons
  rw [hkey]
  rfl

theorem Key.trimStart_assignmentChars (key : Key) (value : String) (rest : List Char) :
    Text.trimStart (assignmentChars key value rest) = assignmentChars key value rest := by
  obtain ⟨c, s, hkey, hc, -⟩ := key.exists_cons
  rw [assignmentChars, hkey, List.cons_append]
  exact Text.trimStart_cons hc

/-- A line that begins with a key is neither blank nor a comment. -/
theorem Key.holds_assignmentChars (key : Key) (value : String) (rest : List Char) :
    ((assignmentChars key value rest).isEmpty ||
      (assignmentChars key value rest).head? == some '#') = false := by
  obtain ⟨c, s, hkey, -, hc⟩ := key.exists_cons
  rw [assignmentChars, hkey, List.cons_append]
  simpa using hc

theorem Key.dropFront?_assignmentChars (key : Key) (value : String) (rest : List Char) :
    Text.dropFront? "export ".toList (assignmentChars key value rest) = none :=
  Text.dropFront?_append_cons key.no_export (by decide)

theorem Key.cutWhere?_assignmentChars (key : Key) (value : String) (rest : List Char) :
    Text.cutWhere? (· == '=') (assignmentChars key value rest) =
      some (key.text.toList, '"' :: (escaped value.toList ++ '"' :: rest)) := by
  refine Text.cutWhere?_append (fun c hc => ?_) rfl
  rw [beq_eq_false_iff_ne]
  rintro rfl
  exact key.no_equals hc

theorem value_quoted (v rest : List Char) :
    value (Text.trim ('"' :: (escaped v ++ '"' :: rest))) = .ok v := by
  rw [Text.trim_cons_append_cons (by decide) (by decide)]
  simp only [value, doubleQuoted?_escaped]

theorem Entry.trim_chars (e : Entry) :
    Text.trim e.chars = (if e.exported then "export ".toList else []) ++
      assignmentChars e.key e.value (Text.trimEnd (commentTail e.comment)) := by
  obtain ⟨c, s, hkey, hc, -⟩ := e.key.exists_cons
  let quoted := s ++ '=' :: '"' :: escaped e.value.toList
  have hassign (rest : List Char) :
      assignmentChars e.key e.value rest = c :: (quoted ++ '"' :: rest) := by
    simp [assignmentChars, hkey, quoted]
  have hquote : Text.isBlank '"' = false := by decide
  unfold Entry.chars
  rw [hassign, hassign]
  -- trimming ends at the first character of the line and at the closing quote
  cases e.exported with
  | false => exact Text.trim_cons_append_cons hc hquote
  | true =>
    have hexport (rest : List Char) : "export ".toList ++ c :: (quoted ++ '"' :: rest) =
        'e' :: ("xport ".toList ++ c :: quoted ++ '"' :: rest) :=
      congrArg ('e' :: ·) (List.append_assoc "xport ".toList (c :: quoted) ('"' :: rest)).symm
    rw [if_pos rfl, hexport, hexport]
    exact Text.trim_cons_append_cons (by decide) hquote

/-- The line of an entry is read as its pair. -/
theorem Entry.binding_chars (e : Entry) (stem : Option String) :
    binding stem (String.ofList e.chars) =
      .ok (some (String.ofList (dropStem stem e.key.text.toList), e.value)) := by
  have htrim : Text.trim (String.ofList e.chars).toList = _ :=
    (congrArg Text.trim String.toList_ofList).trans e.trim_chars
  unfold binding
  rw [htrim]
  generalize Text.trimEnd (commentTail e.comment) = rest
  cases e.exported with
  | false =>
    simp only [Bool.false_eq_true, if_false, List.nil_append, e.key.holds_assignmentChars,
      e.key.dropFront?_assignmentChars, e.key.cutWhere?_assignmentChars, e.key.trimmed,
      e.key.isEmpty_toList, value_quoted, Except.map, String.ofList_toList]
  | true =>
    simp only [if_true, Text.dropFront?_append, e.key.trimStart_assignmentChars,
      e.key.cutWhere?_assignmentChars, e.key.trimmed, e.key.isEmpty_toList, value_quoted,
      Except.map, String.ofList_toList, Bool.false_eq_true, if_false]
    rfl

/-! ## Reading the file -/

theorem lineFormat_trims (stem : Option String) : (lineFormat stem).Trims := by
  intro s t h
  simp only [entry_lineFormat, binding, String.toList_ofList, h]

/-- The pair that an entry is read as, for a decoder with a stem. -/
def Entry.pairFor (stem : Option String) (e : Entry) : String × String :=
  (String.ofList (dropStem stem e.key.text.toList), e.value)

theorem decode_entries_of_stem (stem : Option String) (entries : List Entry)
    (last : Option Entry) :
    decode stem (Source.ofString (Source.fileText Entry.line entries last)) =
      ⟨(entries ++ last.toList).map (Entry.pairFor stem), none⟩ := by
  have hread (e : Entry) : (lineFormat stem).entry (String.ofList e.line.1) =
      .ok (some (e.pairFor stem)) := e.binding_chars stem
  have hpairs : (entries ++ last.toList).filterMap (fun e => some (e.pairFor stem)) =
      (entries ++ last.toList).map (Entry.pairFor stem) := congrFun List.filterMap_eq_map _
  rw [decode, LineFormat.decode_fileText (lineFormat_trims stem) rfl hread, hpairs]

/-- Without a stem, a file of entries is read as their pairs, in order. -/
theorem decode_entries (entries : List Entry) (last : Option Entry) :
    decode none (Source.ofString (Source.fileText Entry.line entries last)) =
      ⟨(entries ++ last.toList).map Entry.pair, none⟩ := by
  have hpair : Entry.pairFor none = Entry.pair := by
    funext e
    rw [Entry.pairFor, dropStem, String.ofList_toList, Entry.pair]
  rw [decode_entries_of_stem, hpair]

theorem decode_entries_sample :
    let address : Entry :=
      ⟨⟨"BIND ADDRESS", by decide, by decide, by decide, by decide, by decide, by decide⟩,
        " a\t\"b\"\n\\#=c ", true, some ⟨"why =\"".toList, by decide⟩⟩
    let name : Entry :=
      ⟨⟨"exported", by decide, by decide, by decide, by decide, by decide, by decide⟩, "", false,
        none⟩
    let text := Source.fileText Entry.line [address] (some name)
    text = "export BIND ADDRESS=\" a\\t\\\"b\\\"\\n\\\\#=c \" #why =\"\nexported=\"\"" ∧
      decode none (Source.ofString text) =
        ⟨[("BIND ADDRESS", " a\t\"b\"\n\\#=c "), ("exported", "")], none⟩ := by
  intro address name text
  exact ⟨by decide, decode_entries [address] (some name)⟩

end LayeredFlags.Dotenv
