import LayeredFlags.Config.LineFormat
import LayeredFlags.Proofs.Text.Cutting
import LayeredFlags.Proofs.Text.Utf8
import Mathlib.Data.List.ReduceOption

/-!
# Reading written lines

A text that is written as lines with a newline behind each of them is read as these lines, whatever
their characters; only a carriage return at the end of a line is lost with the newline.  So a format
of lines that does not see the blanks around a line finds in a written file what it finds in each
line.
-/

namespace LayeredFlags

/-- A text without a newline. -/
abbrev OneLine :=
  { s : List Char // '\n' ∉ s }

/-- What stands behind an entry: nothing, or a comment. -/
def commentTail : Option OneLine → List Char
  | none => []
  | some t => ' ' :: '#' :: t.1

theorem newline_not_mem_commentTail (comment : Option OneLine) : '\n' ∉ commentTail comment := by
  cases comment with
  | none => exact List.not_mem_nil
  | some t => simpa [commentTail] using t.2

namespace Source

/-- Lines with a newline behind each of them, and a last one without. -/
def written (lines : List OneLine) (last : OneLine) : List Char :=
  lines.flatMap (·.1 ++ ['\n']) ++ last.1

/-- A text without the carriage return at its end. -/
def withoutReturn (s : List Char) : List Char :=
  if s.getLast? = some '\r' then s.dropLast else s

theorem trim_withoutReturn (s : List Char) : Text.trim (withoutReturn s) = Text.trim s := by
  unfold withoutReturn
  split_ifs with h
  · obtain ⟨t, rfl⟩ := List.getLast?_eq_some_iff.1 h
    have hreturn : ∀ c ∈ ['\r'], Text.isBlank c = true := List.forall_mem_singleton.2 (by decide)
    rw [List.dropLast_concat, Text.trim_append_right hreturn]
  · rfl

/-! ## Bytes -/

theorem toList_byteArray (b : ByteArray) : b.toList = b.data.toList := by
  have hloop (i : Nat) (r : List UInt8) :
      ByteArray.toList.loop b i r = r.reverse ++ b.data.toList.drop i := by
    induction i, r using ByteArray.toList.loop.induct b with
    | case1 i r hlt ih =>
      have hi : i < b.data.toList.length := by simpa using hlt
      have hget : b.get! i = b.data.toList[i] := by
        rw [Array.getElem_toList]
        exact getElem!_pos b.data i (by simpa using hlt)
      rw [ByteArray.toList.loop, if_pos hlt, ih, List.drop_eq_getElem_cons hi, hget]
      simp
    | case2 i r hge =>
      have hi : b.data.toList.length ≤ i := by simpa using hge
      rw [ByteArray.toList.loop, if_neg hge, List.drop_eq_nil_of_le hi, List.append_nil]
  rw [ByteArray.toList, hloop]
  simp

theorem bytes_ofString (s : String) : (ofString s).bytes = Text.Utf8.encode s.toList := by
  show s.toUTF8.toList = _
  have hbytes : s.toUTF8 = (Text.Utf8.encode s.toList).toByteArray := String.utf8Encode_toList.symm
  rw [toList_byteArray, hbytes, List.toList_data_toByteArray]

theorem text_ofString (s : String) : (ofString s).text = .ok s := by
  have hdecode : Text.Utf8.decode? (ofString s).bytes = some s := by
    rw [bytes_ofString, Text.Utf8.decode?_encode]
  have hwhole : (ofString s).failure = none := rfl
  simp only [text, hwhole, hdecode]

theorem encode_eq_nil_iff {s : List Char} : Text.Utf8.encode s = [] ↔ s = [] := by
  cases s with
  | nil => simp [Text.Utf8.encode]
  | cons c s => simp [Text.Utf8.encode, String.utf8EncodeChar_ne_nil]

theorem newline_not_mem_encode (s : OneLine) : 10 ∉ Text.Utf8.encode s.1 :=
  fun h => s.2 (Text.Utf8.mem_of_mem_encode (by decide) h)

theorem dropReturn_encode (s : List Char) :
    dropReturn (Text.Utf8.encode s) = Text.Utf8.encode (withoutReturn s) := by
  rcases List.eq_nil_or_concat s with rfl | ⟨s, c, rfl⟩
  · rfl
  · rw [List.concat_eq_append, Text.Utf8.encode_append]
    by_cases hc : c = '\r'
    · have hreturn : Text.Utf8.encode ['\r'] = [13] := by decide
      rw [hc, hreturn, dropReturn, withoutReturn, List.getLast?_concat, List.getLast?_concat,
        if_pos rfl, if_pos rfl, List.dropLast_concat, List.dropLast_concat]
    · have hne : Text.Utf8.encode [c] ≠ [] := fun h => List.cons_ne_nil c [] (encode_eq_nil_iff.1 h)
      have hbyte : (Text.Utf8.encode s ++ Text.Utf8.encode [c]).getLast? ≠ some 13 := by
        rw [List.getLast?_append_of_ne_nil _ hne]
        intro h
        have hmem : '\r' ∈ [c] := Text.Utf8.mem_of_mem_encode (by decide) (List.mem_of_getLast? h)
        exact hc (List.mem_singleton.1 hmem).symm
      have hchar : (s ++ [c]).getLast? ≠ some '\r' := by simpa using hc
      rw [dropReturn, withoutReturn, if_neg hbyte, if_neg hchar, Text.Utf8.encode_append]

/-! ## Lines -/

theorem splitLines_of_not_mem {line : List UInt8} (h : 10 ∉ line) :
    splitLines line = ([], line) := by
  induction line with
  | nil => rfl
  | cons b line ih =>
    rw [List.mem_cons, not_or] at h
    rw [splitLines, ih h.2]
    exact if_neg (Ne.symm h.1)

theorem splitLines_append_newline (front rest : List UInt8) :
    splitLines (front ++ 10 :: rest) =
      ((splitLines front).1 ++ (splitLines front).2 :: (splitLines rest).1,
        (splitLines rest).2) := by
  induction front with
  | nil => rfl
  | cons b front ih =>
    rw [List.cons_append, splitLines, ih, splitLines]
    obtain ⟨lines, last⟩ := splitLines front
    by_cases hb : b = 10
    · simp [hb]
    · cases lines <;> simp [hb]

theorem splitLines_newline {line : List UInt8} (h : 10 ∉ line) (rest : List UInt8) :
    splitLines (line ++ 10 :: rest) = (line :: (splitLines rest).1, (splitLines rest).2) := by
  rw [splitLines_append_newline, splitLines_of_not_mem h, List.nil_append]

theorem splitLines_written (lines : List OneLine) (last : OneLine) :
    splitLines (Text.Utf8.encode (written lines last)) =
      (lines.map (Text.Utf8.encode ·.1), Text.Utf8.encode last.1) := by
  unfold written
  induction lines with
  | nil => exact splitLines_of_not_mem (newline_not_mem_encode last)
  | cons line lines ih =>
    have hnewline : Text.Utf8.encode ['\n'] = [10] := by decide
    rw [List.flatMap_cons, List.append_assoc, List.append_assoc, Text.Utf8.encode_append,
      Text.Utf8.encode_append, hnewline, List.singleton_append,
      splitLines_newline (newline_not_mem_encode line), ih]
    rfl

/-- The bytes behind the last newline are a line of their own where there are some and reading does
not fail. -/
theorem lines_eq (s : Source) :
    s.lines = decodeLines s.failure ((splitLines s.bytes).1.map dropReturn ++
      if s.failure.isSome || (splitLines s.bytes).2.isEmpty then []
        else [(splitLines s.bytes).2]) := by
  unfold lines
  dsimp only
  split_ifs
  · rw [List.append_nil]
  · rfl

theorem decodeLines_encode (failure : Option String) (lines : List (List Char)) :
    decodeLines failure (lines.map Text.Utf8.encode) = ⟨lines.map String.ofList, failure⟩ := by
  induction lines with
  | nil => rfl
  | cons line lines ih =>
    have hline : Text.Utf8.decode? (Text.Utf8.encode line) = some (String.ofList line) := by
      rw [← Text.Utf8.decode?_encode (String.ofList line), String.toList_ofList]
    rw [List.map_cons, decodeLines, hline, ih, List.map_cons]

/-- The lines of a written text. -/
theorem lines_written (lines : List OneLine) (last : OneLine) :
    (ofString (String.ofList (written lines last))).lines =
      ⟨(lines.map (withoutReturn ·.1) ++ if last.1 = [] then [] else [last.1]).map String.ofList,
        none⟩ := by
  have hreturns : (lines.map (Text.Utf8.encode ·.1)).map dropReturn =
      (lines.map (withoutReturn ·.1)).map Text.Utf8.encode := by
    simp [Function.comp_def, dropReturn_encode]
  have hlast : (Text.Utf8.encode last.1).isEmpty = true ↔ last.1 = [] :=
    List.isEmpty_iff.trans encode_eq_nil_iff
  unfold Source.lines
  rw [bytes_ofString, String.toList_ofList, splitLines_written, ← decodeLines_encode]
  show decodeLines none (if (Text.Utf8.encode last.1).isEmpty = true then _ else _) = _
  rw [hreturns]
  by_cases h : last.1 = []
  · rw [if_pos (hlast.2 h), if_pos h, List.append_nil]
  · rw [if_neg (mt hlast.1 h), if_neg h, List.map_append, List.map_singleton]

/-- A reading of single lines that trims them does not see the carriage returns. -/
theorem map_lines_written {α : Type} {f : String → α}
    (hf : ∀ s t, Text.trim s = Text.trim t → f (String.ofList s) = f (String.ofList t))
    (lines : List OneLine) (last : OneLine) :
    (ofString (String.ofList (written lines last))).lines.lines.map f =
      (lines ++ if last.1 = [] then [] else [last]).map fun line => f (String.ofList line.1) := by
  have hline (line : OneLine) :
      f (String.ofList (withoutReturn line.1)) = f (String.ofList line.1) :=
    hf _ _ (trim_withoutReturn line.1)
  rw [lines_written, List.map_map, List.map_append, List.map_append, List.map_map]
  congr 1
  · exact List.map_congr_left fun line _ => hline line
  · split_ifs <;> rfl

/-! ## Files -/

variable {ι : Type} (line : ι → OneLine)

/-- The text of a file with a line for each element; the last line may end without a newline. -/
def fileText (elements : List ι) (last : Option ι) : String :=
  String.ofList
    (written (elements.map line) ((last.map line).getD ⟨[], List.not_mem_nil⟩))

theorem failure_fileText (elements : List ι) (last : Option ι) :
    (ofString (fileText line elements last)).lines.failure = none := by
  rw [fileText, lines_written]

/-- What a reading of single lines finds in a file.  A last line without a character is none. -/
theorem map_lines_fileText {α : Type} {f : String → α}
    (hf : ∀ s t, Text.trim s = Text.trim t → f (String.ofList s) = f (String.ofList t))
    (elements : List ι) (last : Option ι) :
    (ofString (fileText line elements last)).lines.lines.map f =
      (elements ++ last.toList.filter fun l => (line l).1 ≠ []).map fun l =>
        f (String.ofList (line l).1) := by
  rw [fileText, map_lines_written hf, List.map_append, List.map_append, List.map_map]
  congr 1
  cases last with
  | none => rfl
  | some l =>
    by_cases h : (line l).1 = []
    · simp [h]
    · rw [Option.map_some, Option.getD_some, if_neg h, Option.toList_some,
        List.filter_cons_of_pos (by simpa using h)]
      rfl

end Source

/-! ## Formats of lines -/

/-- The format does not see the blanks around a line. -/
def LineFormat.Trims (F : LineFormat) : Prop :=
  ∀ s t, Text.trim s = Text.trim t → F.entry (String.ofList s) = F.entry (String.ofList t)

namespace LineFormat

variable {F : LineFormat}

/-- Where no line is bad, the pairs are those of the lines. -/
theorem decodeLines_of_map_eq {failure : Option String} {lines : List String}
    {entries : List (Option (String × String))} (h : lines.map F.entry = entries.map .ok)
    (number : Nat) : F.decodeLines failure number lines =
      ⟨entries.reduceOption, failure.map fun reason => .undecodable (F.broken reason)⟩ := by
  induction lines generalizing entries number with
  | nil =>
    obtain rfl := List.map_eq_nil_iff.1 h.symm
    rfl
  | cons line lines ih =>
    cases entries with
    | nil => cases h
    | cons entry entries =>
      obtain ⟨hline, hlines⟩ := List.cons.inj h
      rw [decodeLines, hline, ih hlines]
      cases entry <;> rfl

/-- A written file is read as the pairs of its lines, in order. -/
theorem decode_fileText {ι : Type} {line : ι → OneLine} {pair? : ι → Option (String × String)}
    (hF : F.Trims) (hempty : F.entry "" = .ok none)
    (hread : ∀ e, F.entry (String.ofList (line e).1) = .ok (pair? e)) (elements : List ι)
    (last : Option ι) : F.decode (Source.ofString (Source.fileText line elements last)) =
      ⟨(elements ++ last.toList).filterMap pair?, none⟩ := by
  have hlines : (Source.ofString (Source.fileText line elements last)).lines.lines.map F.entry =
      ((elements ++ last.toList.filter fun e => (line e).1 ≠ []).map pair?).map .ok := by
    rw [Source.map_lines_fileText line hF, List.map_map]
    exact List.map_congr_left fun e _ => hread e
  -- a last line without a character is not read, and would hold nothing
  have hlast : (last.toList.filter fun e => (line e).1 ≠ []).filterMap pair? =
      last.toList.filterMap pair? := by
    rw [List.filterMap_filter]
    refine List.filterMap_congr fun e _ => ?_
    split_ifs with h
    · rfl
    · have hnil : (line e).1 = [] := by simpa using h
      have hnone := hread e
      rw [hnil, String.ofList_nil, hempty] at hnone
      exact Except.ok.inj hnone
  rw [decode, decodeLines_of_map_eq hlines, Source.failure_fileText, List.reduceOption,
    List.filterMap_map, Function.id_comp, List.filterMap_append, List.filterMap_append, hlast]
  rfl

end LineFormat

end LayeredFlags
