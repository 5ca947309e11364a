import LayeredFlags.Proofs.Chain.Lookup
import LayeredFlags.Proofs.Manifest.Building
import Mathlib.Data.List.Induction

/-!
# Which manifests can be built

A manifest can be built just when each of its flags is sound by itself, which is that its kind
accepts its default, its names are admissible and it can be turned off, and no two of them share a
name.  This does not depend on their order.  Otherwise building ends at the first flag that is not
sound or shares a name with an earlier one.
-/

namespace LayeredFlags

/-! ## Names -/

namespace FlagNames

variable {n : FlagNames} {c : Char} {l : String}

theorem shortAllowed_iff :
    shortAllowed c = true ↔ c ∉ ['\x00', '-', '='] ∧ Text.isBlank c = false := by
  simp [shortAllowed, and_assoc]

theorem longAllowed_iff :
    longAllowed l = true ↔ l ≠ "" ∧ l.toList.head? ≠ some '-' ∧ '=' ∉ l.toList ∧
      ∀ c ∈ l.toList, Text.isBlank c = false := by
  simp [longAllowed, and_assoc]

/-- What the names of a flag must be.  There is one; the short one is no null, dash, equals sign or
blank; the long one is not empty, begins with no dash and holds no equals sign or blank; and the two
are not the same. -/
structure Admissible (n : FlagNames) : Prop where
  named : n.all ≠ []
  short : ∀ c, n.short = some c → c ∉ ['\x00', '-', '='] ∧ Text.isBlank c = false
  long : ∀ l, n.long = some l → l ≠ "" ∧ l.toList.head? ≠ some '-' ∧ '=' ∉ l.toList ∧
    ∀ c ∈ l.toList, Text.isBlank c = false
  distinct : n.all.Nodup

theorem problem?_eq_none_iff : n.problem? = none ↔ n.Admissible := by
  constructor
  · intro h
    obtain ⟨hshort, hlong, hnamed⟩ := allowed_of_problem? h
    refine ⟨?_, fun c hc => shortAllowed_iff.1 (hshort c hc),
      fun l hl => longAllowed_iff.1 (hlong l hl), nodup_all h⟩
    intro hall
    have hnone : n.short = none ∧ n.long = none := by simpa [all] using hall
    exact hnamed hnone.2 hnone.1
  · rintro ⟨hnamed, hshort, hlong, hdistinct⟩
    simp only [← shortAllowed_iff, ← longAllowed_iff] at hshort hlong
    obtain ⟨short, long⟩ := n
    cases short with
    | none =>
      cases long with
      | none => exact absurd rfl hnamed
      | some l => simp [problem?, hlong l rfl]
    | some c =>
      cases long with
      | none => simp [problem?, hshort c rfl]
      | some l =>
        have hne : l ≠ String.singleton c := by
          rintro rfl
          simp [all] at hdistinct
        simp [problem?, hshort c rfl, hlong l rfl, hne]

end FlagNames

/-! ## Defaults -/

/-- The type of the value behind a flag that holds one element. -/
def FlagKind.elementType? : FlagKind → Option ScalarType
  | .string => some .string
  | .int => some .int64
  | .uint => some .uint64
  | .float => some .float
  | .bool | .list | .choice => none

theorem FlagKind.elementType?_cases (k : FlagKind) :
    (∃ type, k.elementType? = some type) ∨ k = .bool ∨ k = .list ∨ k = .choice := by
  cases k <;> simp [elementType?]

namespace FlagSpec

variable {f : FlagSpec} {e : BuildError} {v : Value}

/-- The kind of a flag accepts its default. -/
inductive AcceptsDefault (f : FlagSpec) : Prop
  | element (type : ScalarType) (hkind : f.kind.elementType? = some type)
      (h : ∀ raw, f.default = some raw → ∃ d, type.read raw = .ok d)
  | bool (hkind : f.kind = .bool) (h : ∀ raw, f.default = some raw → ∃ b, boolLiteral? raw = some b)
  | list (hkind : f.kind = .list)
  | choice (hkind : f.kind = .choice) (hne : f.choices ≠ [])
      (h : ∀ raw, f.default = some raw → raw ∈ f.choices)

/-- The kind of a flag refuses its default, or has no choice to offer. -/
inductive RefusesDefault (f : FlagSpec) : (raw : String) → DefaultProblem → Prop
  | element (type : ScalarType) (raw : String) (problem : ValueProblem)
      (hkind : f.kind.elementType? = some type) (hdefault : f.default = some raw)
      (h : type.read raw = .error problem) : RefusesDefault f raw (.refused problem)
  | bool (raw : String) (hkind : f.kind = .bool) (hdefault : f.default = some raw)
      (h : boolLiteral? raw = none) : RefusesDefault f raw .notABoolean
  | noChoices (hkind : f.kind = .choice) (h : f.choices = []) : RefusesDefault f "" .noChoices
  | notAChoice (raw : String) (hkind : f.kind = .choice) (hne : f.choices ≠ [])
      (hdefault : f.default = some raw) (h : raw ∉ f.choices) :
      RefusesDefault f raw (.refused (.notAChoice f.choices))

theorem value_of_elementType? {type : ScalarType} (h : f.kind.elementType? = some type) :
    f.value = f.scalarValue type := by
  unfold value
  cases hkind : f.kind <;> rw [hkind] at h <;> cases h <;> rfl

theorem accepts_or_refuses (f : FlagSpec) :
    f.AcceptsDefault ∨ ∃ raw problem, f.RefusesDefault raw problem := by
  obtain ⟨type, hkind⟩ | hkind | hkind | hkind := f.kind.elementType?_cases
  · cases hdefault : f.default with
    | none => exact .inl (.element type hkind (by simp [hdefault]))
    | some raw =>
      cases hread : type.read raw with
      | error problem => exact .inr ⟨raw, _, .element type raw problem hkind hdefault hread⟩
      | ok d => exact .inl (.element type hkind (by simp [hdefault, hread]))
  · cases hdefault : f.default with
    | none => exact .inl (.bool hkind (by simp [hdefault]))
    | some raw =>
      cases hraw : boolLiteral? raw with
      | none => exact .inr ⟨raw, _, .bool raw hkind hdefault hraw⟩
      | some b => exact .inl (.bool hkind (by simp [hdefault, hraw]))
  · exact .inl (.list hkind)
  · by_cases hchoices : f.choices = []
    · exact .inr ⟨"", _, .noChoices hkind hchoices⟩
    cases hdefault : f.default with
    | none => exact .inl (.choice hkind hchoices (by simp [hdefault]))
    | some raw =>
      by_cases hraw : raw ∈ f.choices
      · exact .inl (.choice hkind hchoices (by simp [hdefault, hraw]))
      · exact .inr ⟨raw, _, .notAChoice raw hkind hchoices hdefault hraw⟩

/-- Where the default is accepted the flag has a value, and only the value of a switch may be left
out. -/
theorem exists_value (h : f.AcceptsDefault) :
    ∃ v, f.value = .ok v ∧ (v.isBool = true ↔ f.kind = .bool) := by
  cases h with
  | element type hkind h =>
    have hne : f.kind ≠ .bool := by
      intro hbool
      rw [hbool] at hkind
      cases hkind
    rw [value_of_elementType? hkind, scalarValue]
    cases hdefault : f.default with
    | none => exact ⟨_, rfl, by simp [hne, Value.ofDefault, Value.isBool]⟩
    | some raw =>
      obtain ⟨d, hd⟩ := h raw hdefault
      simp only [hd]
      exact ⟨_, rfl, by simp [hne, Value.ofDefault, Value.isBool]⟩
  | bool hkind h =>
    simp only [value, hkind]
    cases hdefault : f.default with
    | none => exact ⟨_, rfl, by simp [Value.ofBool, Value.isBool]⟩
    | some raw =>
      obtain ⟨b, hb⟩ := h raw hdefault
      simp only [hb]
      exact ⟨_, rfl, by simp [Value.ofBool, Value.isBool]⟩
  | list hkind =>
    simp only [value, hkind]
    exact ⟨_, rfl, by simp [Value.ofDefaults, Value.ofCollection, Value.isBool]⟩
  | choice hkind hne h =>
    simp only [value, hkind, List.isEmpty_iff, if_neg hne]
    cases hdefault : f.default with
    | none => exact ⟨_, rfl, by simp [Value.ofChoices, Value.isBool]⟩
    | some raw =>
      simp only [Value.ofChoicesAt, if_pos (h raw hdefault)]
      exact ⟨_, rfl, by simp [Value.isBool]⟩

theorem value_of_refuses {raw : String} {problem : DefaultProblem}
    (h : f.RefusesDefault raw problem) :
    f.value = .error (.invalidDefault f.names.display raw problem) := by
  cases h with
  | element type raw problem hkind hdefault h =>
    simp only [value_of_elementType? hkind, scalarValue, hdefault, h]
    rfl
  | bool raw hkind hdefault h =>
    simp only [value, hkind, hdefault, h]
    rfl
  | noChoices hkind h =>
    simp only [value, hkind, h]
    rfl
  | notAChoice raw hkind hne hdefault h =>
    simp only [value, hkind, List.isEmpty_iff, if_neg hne, hdefault, Value.ofChoicesAt, if_neg h]
    rfl

/-! ## Faults of a flag -/

/-- A switch that is on by default and has no name to turn it off by. -/
def StuckOn (f : FlagSpec) : Prop :=
  f.kind = .bool ∧ f.default.bind boolLiteral? = some true ∧ f.names.long = none

/-- Nothing is wrong with a flag by itself. -/
structure Sound (f : FlagSpec) : Prop where
  default : f.AcceptsDefault
  names : f.names.Admissible
  not_stuckOn : ¬ f.StuckOn

/-- What is wrong with a flag by itself. -/
inductive Flaw (f : FlagSpec) : BuildError → Prop
  | default (raw : String) (problem : DefaultProblem) (h : f.RefusesDefault raw problem) :
      Flaw f (.invalidDefault f.names.display raw problem)
  | names (problem : NameProblem) (hdefault : f.AcceptsDefault)
      (h : f.names.problem? = some problem) : Flaw f (.unregistered (.invalidName problem))
  | stuckOn (hdefault : f.AcceptsDefault) (hnames : f.names.Admissible) (h : f.StuckOn) :
      Flaw f (.unregistered (.invalidName (.needsLong f.names.listing)))

/-- What is wrong with a flag behind others: it has a flaw, or shares a name with an earlier one. -/
inductive Fault (earlier : List FlagSpec) (f : FlagSpec) : BuildError → Prop
  | flaw (e : BuildError) (h : f.Flaw e) : Fault earlier f e
  | duplicate (front back : List FlagSpec) (g : FlagSpec) (name : String) (hf : f.Sound)
      (hearlier : earlier = front ++ g :: back)
      (hfront : ∀ h ∈ front, h.names.all.Disjoint f.names.all)
      (hname : g.names.collision? f.names = some name) :
      Fault earlier f (.unregistered (.duplicateFlag name))

theorem sound_or_flaw (f : FlagSpec) : f.Sound ∨ ∃ e, f.Flaw e := by
  obtain hdefault | ⟨raw, problem, h⟩ := f.accepts_or_refuses
  · cases hnames : f.names.problem? with
    | some problem => exact .inr ⟨_, .names problem hdefault hnames⟩
    | none =>
      rw [FlagNames.problem?_eq_none_iff] at hnames
      by_cases hstuck : f.StuckOn
      · exact .inr ⟨_, .stuckOn hdefault hnames hstuck⟩
      · exact .inl ⟨hdefault, hnames, hstuck⟩
  · exact .inr ⟨_, .default raw problem h⟩

theorem sound_or_fault (earlier : List FlagSpec) (f : FlagSpec) :
    (f.Sound ∧ ∀ g ∈ earlier, g.names.all.Disjoint f.names.all) ∨ ∃ e, f.Fault earlier e := by
  obtain hsound | ⟨e, h⟩ := f.sound_or_flaw
  · cases hfirst : earlier.findSome? (·.names.collision? f.names) with
    | none =>
      rw [List.findSome?_eq_none_iff] at hfirst
      exact .inl ⟨hsound, fun g hg => FlagNames.collision?_eq_none_iff.1 (hfirst g hg)⟩
    | some name =>
      obtain ⟨front, g, back, hearlier, hname, hfront⟩ := List.findSome?_eq_some_iff.1 hfirst
      refine .inr ⟨_, .duplicate front back g name hsound hearlier (fun h hh => ?_) hname⟩
      exact FlagNames.collision?_eq_none_iff.1 (hfront h hh)
  · exact .inr ⟨e, .flaw e h⟩

/-! ## Registration -/

/-- What a flag is registered from, once it has a value. -/
def decl (f : FlagSpec) (value : Value) : FlagDecl :=
  { names := f.names, usage := f.usage, placeholder := f.placeholder, value }

theorem register_of_value (h : f.value = .ok v) (s : FlagSet) :
    f.register s = match s.add (f.decl v) with
      | .ok s => .ok s
      | .error cause => .error (.unregistered cause) := by
  rw [register, h]
  rfl

theorem stuckOn_decl_iff (hvalue : f.value = .ok v) (hbool : v.isBool = true ↔ f.kind = .bool) :
    FlagSet.StuckOn (f.decl v) ↔ f.StuckOn := by
  have htext := (of_value hvalue).2
  show v.isBool = true ∧ v.text = "true" ∧ f.names.long = none ↔ _
  rw [hbool]
  refine and_congr_right fun hkind => and_congr_left' ?_
  simp only [defaultText?, hkind] at htext
  cases hdefault : f.default with
  | none =>
    simp only [hdefault, Option.some.injEq] at htext
    simp [← htext]
  | some raw =>
    simp only [hdefault] at htext
    cases hraw : boolLiteral? raw with
    | none =>
      rw [hraw] at htext
      cases htext
    | some b =>
      simp only [hraw, Option.map_some, Option.some.injEq] at htext
      cases b <;> simp [← htext, hraw, Value.boolText]

theorem register_of_flaw (h : f.Flaw e) (s : FlagSet) : f.register s = .error e := by
  cases h with
  | default raw problem h => rw [register, value_of_refuses h]
  | names problem hdefault h =>
    obtain ⟨v, hvalue, -⟩ := exists_value hdefault
    have hnames : (f.decl v).names.problem? = some problem := h
    rw [register_of_value hvalue, FlagSet.add]
    simp only [hnames]
  | stuckOn hdefault hnames h =>
    obtain ⟨v, hvalue, hbool⟩ := exists_value hdefault
    have hproblem : (f.decl v).names.problem? = none := FlagNames.problem?_eq_none_iff.2 hnames
    have hstuck := (stuckOn_decl_iff hvalue hbool).2 h
    rw [register_of_value hvalue, FlagSet.add_of_stuckOn hproblem hstuck]
    rfl

/-- A flag of a set is as a manifest describes it, and nothing has set it. -/
structure Describes (f : FlagSpec) (g : Flag) : Prop where
  names : g.names = f.names
  unset : g.isSet = false ∧ g.origin = none
  value : f.value = .ok g.value
  default : f.defaultText? = some g.default

theorem names_of_describes {fs : List FlagSpec} {gs : List Flag}
    (h : List.Forall₂ Describes fs gs) : gs.map Flag.names = fs.map FlagSpec.names := by
  induction h with
  | nil => rfl
  | cons hflag _ ih => rw [List.map_cons, List.map_cons, hflag.names, ih]

/-- A sound flag is added behind the others, unless it shares a name with one of them. -/
theorem register_of_sound (hf : f.Sound) {earlier : List FlagSpec} {s : FlagSet}
    (hs : List.Forall₂ Describes earlier s.flags) :
    ∃ g, f.Describes g ∧ f.register s =
      match earlier.findSome? (·.names.collision? f.names) with
      | some name => .error (.unregistered (.duplicateFlag name))
      | none => .ok { s with flags := s.flags ++ [g] } := by
  obtain ⟨v, hvalue, hbool⟩ := exists_value hf.default
  have hproblem : (f.decl v).names.problem? = none := FlagNames.problem?_eq_none_iff.2 hf.names
  have hstuck : ¬ FlagSet.StuckOn (f.decl v) := mt (stuckOn_decl_iff hvalue hbool).1 hf.not_stuckOn
  have hfirst : s.flags.findSome? (·.names.collision? (f.decl v).names) =
      earlier.findSome? (·.names.collision? f.names) := by
    have hnames := congrArg (List.findSome? (·.collision? f.names)) (names_of_describes hs)
    rwa [List.findSome?_map, List.findSome?_map] at hnames
  refine ⟨.ofDecl (f.decl v), ⟨rfl, ⟨rfl, rfl⟩, hvalue, (of_value hvalue).2⟩, ?_⟩
  rw [register_of_value hvalue, FlagSet.add_eq hproblem hstuck, hfirst]
  cases earlier.findSome? (·.names.collision? f.names) <;> rfl

theorem register_of_apart (hf : f.Sound) {earlier : List FlagSpec} {s : FlagSet}
    (hs : List.Forall₂ Describes earlier s.flags)
    (hapart : ∀ g ∈ earlier, g.names.all.Disjoint f.names.all) :
    ∃ g, f.Describes g ∧ f.register s = .ok { s with flags := s.flags ++ [g] } := by
  obtain ⟨g, hg, hregister⟩ := register_of_sound hf hs
  have hfirst : earlier.findSome? (·.names.collision? f.names) = none :=
    List.findSome?_eq_none_iff.2 fun g hg => FlagNames.collision?_eq_none_iff.2 (hapart g hg)
  rw [hfirst] at hregister
  exact ⟨g, hg, hregister⟩

theorem register_of_fault {earlier : List FlagSpec} {s : FlagSet}
    (hs : List.Forall₂ Describes earlier s.flags) (h : f.Fault earlier e) :
    f.register s = .error e := by
  cases h with
  | flaw _ h => exact register_of_flaw h s
  | duplicate front back g name hf hearlier hfront hname =>
    obtain ⟨_, _, hregister⟩ := register_of_sound hf hs
    have hfirst : earlier.findSome? (·.names.collision? f.names) = some name :=
      List.findSome?_eq_some_iff.2 ⟨front, g, back, hearlier, hname, fun h hh =>
        FlagNames.collision?_eq_none_iff.2 (hfront h hh)⟩
    rwa [hfirst] at hregister

end FlagSpec

namespace Manifest

variable {fs gs : List FlagSpec} {e : BuildError}

/-! ## Lists of flags -/

/-- Every flag is sound, and no two share a name. -/
structure Buildable (fs : List FlagSpec) : Prop where
  sound : ∀ f ∈ fs, f.Sound
  apart : fs.Pairwise fun f g => f.names.all.Disjoint g.names.all

/-- The first flag with which something is wrong behind the ones before it, and what that is. -/
def FirstFault (fs : List FlagSpec) (e : BuildError) : Prop :=
  ∃ earlier f later, fs = earlier ++ f :: later ∧ Buildable earlier ∧ f.Fault earlier e

theorem buildable_concat {f : FlagSpec} : Buildable (fs ++ [f]) ↔
    Buildable fs ∧ f.Sound ∧ ∀ g ∈ fs, g.names.all.Disjoint f.names.all := by
  constructor
  · rintro ⟨hsound, hapart⟩
    rw [List.forall_mem_append, List.forall_mem_singleton] at hsound
    rw [List.pairwise_append] at hapart
    refine ⟨⟨hsound.1, hapart.1⟩, hsound.2, fun g hg => ?_⟩
    exact hapart.2.2 g hg f (List.mem_singleton_self f)
  · rintro ⟨⟨hsound, hapart⟩, hf, hfree⟩
    refine ⟨List.forall_mem_append.2 ⟨hsound, List.forall_mem_singleton.2 hf⟩, ?_⟩
    refine List.pairwise_append.2 ⟨hapart, List.pairwise_singleton _ _, fun g hg => ?_⟩
    exact List.forall_mem_singleton.2 (hfree g hg)

/-- The order of the flags does not matter. -/
theorem buildable_perm (h : fs.Perm gs) : Buildable fs ↔ Buildable gs := by
  have key {fs gs : List FlagSpec} (h : fs.Perm gs) (hfs : Buildable fs) : Buildable gs :=
    ⟨fun f hf => hfs.sound f (h.mem_iff.2 hf), h.pairwise hfs.apart List.disjoint_symm⟩
  exact ⟨key h, key h.symm⟩

theorem buildable_or_firstFault (fs : List FlagSpec) : Buildable fs ∨ ∃ e, FirstFault fs e := by
  induction fs using List.reverseRec with
  | nil => exact .inl ⟨List.forall_mem_nil _, .nil⟩
  | append_singleton fs f ih =>
    obtain hfs | ⟨e, earlier, g, later, rfl, hearlier, hfault⟩ := ih
    · obtain ⟨hf, hapart⟩ | ⟨e, hfault⟩ := f.sound_or_fault fs
      · exact .inl (buildable_concat.2 ⟨hfs, hf, hapart⟩)
      · exact .inr ⟨e, fs, f, [], rfl, hfs, hfault⟩
    · exact .inr ⟨e, earlier, g, later ++ [f], by simp, hearlier, hfault⟩

/-! ## Building -/

theorem foldlM_of_buildable (h : Buildable fs) {s : FlagSet} (hs : s.flags = []) :
    ∃ gs, List.Forall₂ FlagSpec.Describes fs gs ∧
      fs.foldlM (fun s f => f.register s) s = .ok { s with flags := gs } := by
  induction fs using List.reverseRec with
  | nil => exact ⟨[], .nil, by rw [← hs]; rfl⟩
  | append_singleton fs f ih =>
    obtain ⟨hfs, hf, hapart⟩ := buildable_concat.1 h
    obtain ⟨gs, hgs, hfold⟩ := ih hfs
    obtain ⟨g, hg, hregister⟩ :=
      FlagSpec.register_of_apart (s := { s with flags := gs }) hf hgs hapart
    refine ⟨gs ++ [g], List.rel_append hgs (.cons hg .nil), ?_⟩
    rw [List.foldlM_append, hfold]
    show List.foldlM _ _ _ = _
    rw [List.foldlM_cons, hregister]
    rfl

theorem foldlM_of_firstFault (h : FirstFault fs e) {s : FlagSet} (hs : s.flags = []) :
    fs.foldlM (fun s f => f.register s) s = .error e := by
  obtain ⟨earlier, f, later, rfl, hearlier, hfault⟩ := h
  obtain ⟨gs, hgs, hfold⟩ := foldlM_of_buildable hearlier hs
  have hregister := FlagSpec.register_of_fault (s := { s with flags := gs }) hgs hfault
  rw [List.foldlM_append, hfold]
  show List.foldlM _ _ _ = _
  rw [List.foldlM_cons, hregister]
  rfl

/-- What building a manifest comes to. -/
structure BuildOutcome (m : Manifest) : Prop where
  /-- It succeeds just when every flag is sound and no two share a name. -/
  succeeds_iff : (∃ s, m.build = .ok s) ↔ Buildable m.flags
  /-- Then the set has a flag for each flag of the manifest, in order, and nothing has set them. -/
  described : ∀ s, m.build = .ok s → s = { m.emptySet with flags := s.flags } ∧
    List.Forall₂ FlagSpec.Describes m.flags s.flags
  /-- Otherwise the error is what is wrong with the first flag with which something is. -/
  fails_iff : ∀ e, m.build = .error e ↔ FirstFault m.flags e
  /-- Whether it succeeds does not depend on the order of the flags. -/
  reordered : ∀ m' : Manifest, m.flags.Perm m'.flags →
    ((∃ s, m.build = .ok s) ↔ ∃ s, m'.build = .ok s)

theorem build_of_buildable {m : Manifest} (h : Buildable m.flags) :
    ∃ gs, List.Forall₂ FlagSpec.Describes m.flags gs ∧
      m.build = .ok { m.emptySet with flags := gs } :=
  foldlM_of_buildable h rfl

theorem build_of_firstFault {m : Manifest} (h : FirstFault m.flags e) : m.build = .error e :=
  foldlM_of_firstFault h rfl

theorem build_eq_ok_iff {m : Manifest} : (∃ s, m.build = .ok s) ↔ Buildable m.flags := by
  constructor
  · rintro ⟨s, hs⟩
    refine (buildable_or_firstFault m.flags).resolve_right ?_
    rintro ⟨e, he⟩
    rw [build_of_firstFault he] at hs
    cases hs
  · intro h
    obtain ⟨gs, -, hbuild⟩ := build_of_buildable h
    exact ⟨_, hbuild⟩

theorem build_outcome (m : Manifest) : m.BuildOutcome where
  succeeds_iff := build_eq_ok_iff
  described := by
    intro s hs
    obtain ⟨gs, hgs, hbuild⟩ := build_of_buildable (build_eq_ok_iff.1 ⟨s, hs⟩)
    cases hbuild.symm.trans hs
    exact ⟨rfl, hgs⟩
  fails_iff := by
    intro e
    refine ⟨fun he => ?_, build_of_firstFault⟩
    obtain h | ⟨e', h⟩ := buildable_or_firstFault m.flags
    · obtain ⟨s, hs⟩ := build_eq_ok_iff.2 h
      rw [hs] at he
      cases he
    · rw [build_of_firstFault h] at he
      cases he
      exact h
  reordered := by
    intro m' h
    rw [build_eq_ok_iff, build_eq_ok_iff, buildable_perm h]

example :
    let m : Manifest :=
      { flags := [{ names := { long := some "p" } }, { names := { short := some 'p' } }] }
    m.build = .error (.unregistered (.duplicateFlag "-p")) := by
  rfl

end Manifest

end LayeredFlags
