import LayeredFlags.Config.Format
import LayeredFlags.Proofs.Text.Cutting
import LayeredFlags.Proofs.Text.Upper

/-!
# Detecting formats

The format of a file follows from its name alone, wherever the file lies, and the extension counts
in any letter case.  The name `.env` has no extension and is compared as it is, so of the names that
differ from it in capitals only it alone is known.
-/

namespace LayeredFlags

namespace Path

variable {path file dir other : List Char}

/-! ## File names -/

/-- A component that names a file. -/
structure IsFileName (file : List Char) : Prop where
  ne_nil : file ≠ []
  ne_self : file ≠ ['.']
  ne_parent : file ≠ ['.', '.']
  undivided : '/' ∉ file

theorem components_append (dir file : List Char) :
    components (dir ++ '/' :: file) = components dir ++ components file := by
  unfold components
  rw [Text.pieces_append_cons rfl, List.filter_append]

theorem components_of_isFileName (h : IsFileName file) : components file = [file] := by
  have hpieces : Text.pieces (· == '/') file = [file] :=
    Text.pieces_of_forall_not fun c hc => by
      rw [beq_eq_false_iff_ne]
      rintro rfl
      exact h.undivided hc
  have hcounts : (!(file.isEmpty || file == ['.'])) = true := by
    simp [h.ne_nil, h.ne_self]
  rw [components, hpieces, List.filter_singleton, hcounts]
  rfl

theorem isFileName_of_fileName? (h : fileName? path = some file) : IsFileName file := by
  unfold fileName? at h
  cases hlast : (components path).getLast? with
  | none =>
    rw [hlast] at h
    cases h
  | some name =>
    rw [hlast] at h
    simp only at h
    split_ifs at h with hparent
    cases h
    obtain ⟨hpiece, hcounts⟩ := List.mem_filter.1 (List.mem_of_getLast? hlast)
    simp only [Bool.not_eq_true', Bool.or_eq_false_iff, List.isEmpty_eq_false_iff,
      beq_eq_false_iff_ne] at hcounts
    refine ⟨hcounts.1, hcounts.2, hparent, fun hslash => ?_⟩
    exact absurd (Text.forall_not_of_mem_pieces hpiece _ hslash) (by decide)

theorem fileName?_of_isFileName (h : IsFileName file) : fileName? file = some file := by
  rw [fileName?, components_of_isFileName h]
  exact if_neg h.ne_parent

theorem fileName?_append (h : IsFileName file) (dir : List Char) :
    fileName? (dir ++ '/' :: file) = some file := by
  rw [fileName?, components_append, components_of_isFileName h, List.getLast?_concat]
  exact if_neg h.ne_parent

/-! ### In another letter case -/

/-- A name in small ASCII letters. -/
def lower (file : List Char) : List Char :=
  file.map Text.asciiLowerChar

theorem toList_asciiLower (file : String) :
    (Text.asciiLower file).toList = lower file.toList := by
  rw [Text.asciiLower, String.toList_ofList, lower]

theorem ofList_lower (file : List Char) :
    String.ofList (lower file) = Text.asciiLower (String.ofList file) := by
  rw [Text.asciiLower, String.toList_ofList, lower]

theorem toList_asciiLower_ofList (file : List Char) :
    (Text.asciiLower (String.ofList file)).toList = lower file := by
  rw [toList_asciiLower, String.toList_ofList]

theorem lower_eq_dots_iff (n : Nat) :
    lower file = List.replicate n '.' ↔ file = List.replicate n '.' := by
  simp only [lower, List.eq_replicate_iff, List.length_map, List.forall_mem_map,
    Text.asciiLowerChar_eq_dot]

theorem slash_mem_lower_iff : '/' ∈ lower file ↔ '/' ∈ file := by
  simp only [lower, List.mem_map, Text.asciiLowerChar_eq_slash, exists_eq_right]

theorem isFileName_lower_iff : IsFileName (lower file) ↔ IsFileName file := by
  have key (s : List Char) : IsFileName s ↔
      (s ≠ List.replicate 0 '.' ∧ s ≠ List.replicate 1 '.' ∧ s ≠ List.replicate 2 '.') ∧
        '/' ∉ s :=
    ⟨fun h => ⟨⟨h.ne_nil, h.ne_self, h.ne_parent⟩, h.undivided⟩,
      fun h => ⟨h.1.1, h.1.2.1, h.1.2.2, h.2⟩⟩
  rw [key, key]
  simp only [ne_eq, lower_eq_dots_iff, slash_mem_lower_iff]

theorem extension?_lower (file : List Char) :
    extension? (lower file) = (extension? file).map lower := by
  have hdot (c : Char) : (Text.asciiLowerChar c == '.') = (c == '.') := by
    rw [Bool.eq_iff_iff, beq_iff_eq, beq_iff_eq, Text.asciiLowerChar_eq_dot]
  unfold extension?
  rw [lower, ← List.map_reverse, Text.cutWhere?_map hdot]
  cases Text.cutWhere? (· == '.') file.reverse with
  | none => rfl
  | some q =>
    simp only [Option.map_some, List.isEmpty_map]
    split_ifs
    · rfl
    · rw [Option.map_some, lower, List.map_reverse]

end Path

namespace Format

variable {path file other : String}

/-! ## Formats -/

/-- The format of a file by its name. -/
def ofFileName (file : List Char) : Format :=
  if file = ".env".toList then .dotenv
  else match Path.extension? file with
    | some ext => ofExtension (String.ofList ext)
    | none => .plain

theorem ofPath_of_fileName? {file : List Char} (h : Path.fileName? path.toList = some file) :
    ofPath path = ofFileName file := by
  unfold ofPath
  rw [h]
  rfl

theorem ofExtension_asciiLower (ext : String) :
    ofExtension (Text.asciiLower ext) = ofExtension ext := by
  unfold ofExtension
  rw [Text.asciiLower_asciiLower]

theorem ofExtension_eq_dotenv_iff {ext : String} :
    ofExtension ext = .dotenv ↔ Text.asciiLower ext = "env" := by
  unfold ofExtension
  split <;> simp_all

/-- Any name but `.env` goes by its extension in small letters. -/
theorem ofFileName_of_ne (h : file ≠ ".env") :
    ofFileName file.toList = match Path.extension? (Text.asciiLower file).toList with
      | some ext => ofExtension (String.ofList ext)
      | none => .plain := by
  rw [ofFileName, if_neg (mt String.toList_inj.1 h), Path.toList_asciiLower, Path.extension?_lower]
  cases Path.extension? file.toList with
  | none => rfl
  | some ext => simp only [Option.map_some, Path.ofList_lower, ofExtension_asciiLower]

/-- The name `.env` with a capital letter in it. -/
def CapitalDotenv (file : String) : Prop :=
  Text.asciiLower file = ".env" ∧ file ≠ ".env"

instance (file : String) : Decidable (CapitalDotenv file) :=
  inferInstanceAs (Decidable (_ ∧ _))

/-- What the name of a file says about its format. -/
structure Detects (path file : String) : Prop where
  /-- The name tells the format alone. -/
  alone : ofPath file = ofPath path
  /-- The name tells the format in any directory. -/
  under : ∀ dir, ofPath (dir ++ "/" ++ file) = ofPath path
  /-- So does the name in another letter case, alone and in any directory. -/
  recased : ¬ CapitalDotenv file → ∀ other, Text.asciiLower other = Text.asciiLower file →
    ¬ CapitalDotenv other → ofPath other = ofPath path ∧
      ∀ dir, ofPath (dir ++ "/" ++ other) = ofPath path
  /-- The dotenv format is that of `.env` and of the extension `env`. -/
  dotenv_iff : ¬ CapitalDotenv file → (ofPath path = .dotenv ↔
    Text.asciiLower file = ".env" ∨
      Path.extension? (Text.asciiLower file).toList = some "env".toList)
  /-- With a capital letter in it, `.env` is the name of a plain file. -/
  capital : CapitalDotenv file → ofPath path = .plain

theorem ofFileName_of_recased (h : Text.asciiLower other = Text.asciiLower file)
    (hfile : ¬ CapitalDotenv file) (hother : ¬ CapitalDotenv other) :
    ofFileName other.toList = ofFileName file.toList := by
  by_cases hdotenv : Text.asciiLower file = ".env"
  · have hfile : file = ".env" := by_contra fun hne => hfile ⟨hdotenv, hne⟩
    have hother : other = ".env" := by_contra fun hne => hother ⟨h.trans hdotenv, hne⟩
    rw [hfile, hother]
  · have hne {s : String} (hs : Text.asciiLower s ≠ ".env") : s ≠ ".env" := by
      rintro rfl
      exact hs (by decide)
    rw [ofFileName_of_ne (hne hdotenv), ofFileName_of_ne (hne (h ▸ hdotenv)), h]

theorem ofFileName_eq_dotenv_iff (hfile : ¬ CapitalDotenv file) :
    ofFileName file.toList = .dotenv ↔ Text.asciiLower file = ".env" ∨
      Path.extension? (Text.asciiLower file).toList = some "env".toList := by
  by_cases hdotenv : file = ".env"
  · subst hdotenv
    exact iff_of_true (by decide) (.inl (by decide))
  · have hno : Text.asciiLower file ≠ ".env" := fun h => hfile ⟨h, hdotenv⟩
    rw [ofFileName_of_ne hdotenv, or_iff_right hno, Path.toList_asciiLower, Path.extension?_lower]
    cases Path.extension? file.toList with
    | none => simp
    | some ext =>
      have hext : Path.lower ext = "env".toList ↔ Text.asciiLower (String.ofList ext) = "env" := by
        rw [← Path.toList_asciiLower_ofList, String.toList_inj]
      simp only [Option.map_some, Option.some.injEq, Path.ofList_lower, ofExtension_asciiLower,
        ofExtension_eq_dotenv_iff, hext]

/-- The format of a file is that of its name. -/
theorem detects_of_fileName? (h : Path.fileName? path.toList = some file.toList) :
    Detects path file := by
  have hname : Path.IsFileName file.toList := Path.isFileName_of_fileName? h
  have hpath : ofPath path = ofFileName file.toList := ofPath_of_fileName? h
  have halone {s : String} (hs : Path.IsFileName s.toList) : ofPath s = ofFileName s.toList :=
    ofPath_of_fileName? (Path.fileName?_of_isFileName hs)
  have hunder {s : String} (hs : Path.IsFileName s.toList) (dir : String) :
      ofPath (dir ++ "/" ++ s) = ofFileName s.toList := by
    refine ofPath_of_fileName? ?_
    have hchars : (dir ++ "/" ++ s).toList = dir.toList ++ '/' :: s.toList := by simp
    rw [hchars, Path.fileName?_append hs]
  refine ⟨(halone hname).trans hpath.symm, fun dir => (hunder hname dir).trans hpath.symm,
    fun hfile other hcase hother => ?_, fun hfile => ?_, fun hfile => ?_⟩
  · have hother' : Path.IsFileName other.toList := by
      rw [← Path.isFileName_lower_iff, ← Path.toList_asciiLower, hcase, Path.toList_asciiLower,
        Path.isFileName_lower_iff]
      exact hname
    have hformat := (ofFileName_of_recased hcase hfile hother).trans hpath.symm
    exact ⟨(halone hother').trans hformat, fun dir => (hunder hother' dir).trans hformat⟩
  · rw [hpath, ofFileName_eq_dotenv_iff hfile]
  · rw [hpath, ofFileName_of_ne hfile.2, hfile.1]
    rfl

theorem detects_of_fileName?_sample :
    let path := "/etc/app.d/./Prod.ENV/"
    Path.fileName? path.toList = some "Prod.ENV".toList ∧ ofPath path = .dotenv ∧
      ¬ CapitalDotenv "Prod.ENV" ∧ ¬ CapitalDotenv "PROD.env" ∧
      ofPath "etc/PROD.env" = .dotenv ∧ Detects path "Prod.ENV" := by
  intro path
  have h : Path.fileName? path.toList = some "Prod.ENV".toList := by decide
  have hdetects : Detects path "Prod.ENV" := detects_of_fileName? h
  have hpath : ofPath path = .dotenv := by decide
  have hfile : ¬ CapitalDotenv "Prod.ENV" := by decide
  have hother : ¬ CapitalDotenv "PROD.env" := by decide
  have hrecased := hdetects.recased hfile "PROD.env" (by decide) hother
  exact ⟨h, hpath, hfile, hother, (hrecased.2 "etc").trans hpath, hdetects⟩

/-- A capital letter makes a plain file of `.env`, but not of a name with this extension. -/
theorem plain_of_capital_dotenv :
    Path.fileName? ".ENV".toList = some ".ENV".toList ∧
      Text.asciiLower ".ENV" = Text.asciiLower ".env" ∧ ofPath ".env" = .dotenv ∧
      ofPath ".ENV" = .plain ∧ ofPath "prod.ENV" = .dotenv := by
  decide

end Format

end LayeredFlags
