import LayeredFlags.Manifest.Basic
import LayeredFlags.Proofs.Forest.Renewal

/-!
# Sets that manifests describe

The set that a manifest describes holds one flag for each flag of the manifest, in order, with its
names and a value of its kind that is as it was made and renders the default of the manifest.
-/

namespace LayeredFlags

namespace FlagSpec

variable {f : FlagSpec}

/-! ## Defaults -/

/-- The rendering of the default of a number, where that is one. -/
def numberText? (f : FlagSpec) (type : ScalarType) : Option String :=
  match f.default with
  | none => some "0"
  | some raw => (type.read raw).toOption.map Datum.text

/-- The rendering of the default that a manifest declares for a flag, where it declares a valid
one. -/
def defaultText? (f : FlagSpec) : Option String :=
  match f.kind with
  | .string => some (f.default.getD "")
  | .int => f.numberText? .int64
  | .uint => f.numberText? .uint64
  | .float => f.numberText? .float
  | .bool =>
    match f.default with
    | none => some "false"
    | some raw => (boolLiteral? raw).map Value.boolText
  | .list => some ("[" ++ ", ".intercalate f.defaults ++ "]")
  | .choice => f.default <|> f.choices.head?

theorem of_scalarValue {type : ScalarType} {v : Value} (h : f.scalarValue type = .ok v) :
    ∃ d, v = .ofDefault type d ∧
      ((f.default = none ∧ d = type.zero) ∨
        ∃ raw, f.default = some raw ∧ type.read raw = .ok d) := by
  unfold scalarValue at h
  cases hdefault : f.default with
  | none =>
    rw [hdefault] at h
    cases h
    exact ⟨_, rfl, .inl ⟨rfl, rfl⟩⟩
  | some raw =>
    simp only [hdefault] at h
    cases hread : type.read raw with
    | error problem =>
      rw [hread] at h
      cases h
    | ok d =>
      rw [hread] at h
      cases h
      exact ⟨d, rfl, .inr ⟨raw, rfl, hread⟩⟩

theorem numberText?_of_scalarValue {type : ScalarType} {v : Value} (hzero : type.zero.text = "0")
    (h : f.scalarValue type = .ok v) : f.numberText? type = some v.text := by
  unfold numberText?
  obtain ⟨d, rfl, ⟨hdefault, rfl⟩ | ⟨raw, hdefault, hread⟩⟩ := of_scalarValue h
  · rw [hdefault]
    exact congrArg some hzero.symm
  · simp only [hdefault, hread]
    rfl

/-- The value of a flag of a manifest is as it was made, and renders the default. -/
theorem of_value {v : Value} (h : f.value = .ok v) :
    v.Fresh ∧ f.defaultText? = some v.text := by
  unfold value at h
  unfold defaultText?
  have scalar {type : ScalarType} (h : f.scalarValue type = .ok v) : v.Fresh := by
    obtain ⟨d, rfl, -⟩ := of_scalarValue h
    exact Value.fresh_ofDefault type d
  cases hkind : f.kind with
  | string =>
    simp only [hkind] at h ⊢
    refine ⟨scalar h, ?_⟩
    obtain ⟨d, rfl, ⟨hdefault, rfl⟩ | ⟨raw, hdefault, hread⟩⟩ := of_scalarValue h
    · rw [hdefault]
      rfl
    · rw [hdefault]
      cases hread
      rfl
  | int =>
    simp only [hkind] at h ⊢
    exact ⟨scalar h, numberText?_of_scalarValue (by decide +kernel) h⟩
  | uint =>
    simp only [hkind] at h ⊢
    exact ⟨scalar h, numberText?_of_scalarValue (by decide +kernel) h⟩
  | float =>
    simp only [hkind] at h ⊢
    exact ⟨scalar h, numberText?_of_scalarValue (by decide +kernel) h⟩
  | bool =>
    simp only [hkind] at h ⊢
    cases hdefault : f.default with
    | none =>
      rw [hdefault] at h
      cases h
      exact ⟨Value.fresh_ofBool false, rfl⟩
    | some raw =>
      simp only [hdefault] at h ⊢
      cases hraw : boolLiteral? raw with
      | none =>
        rw [hraw] at h
        cases h
      | some b =>
        rw [hraw] at h
        cases h
        exact ⟨Value.fresh_ofBool b, rfl⟩
  | list =>
    simp only [hkind] at h ⊢
    cases h
    refine ⟨Value.fresh_ofDefaults .string false _, ?_⟩
    have htexts : (f.defaults.map Datum.string).map Datum.text = f.defaults := by
      rw [List.map_map]
      exact List.map_id _
    show _ = some ("[" ++ ", ".intercalate ((f.defaults.map Datum.string).map Datum.text) ++ "]")
    rw [htexts]
  | choice =>
    simp only [hkind] at h ⊢
    cases hchoices : f.choices with
    | nil =>
      rw [hchoices] at h
      cases h
    | cons first rest =>
      simp only [hchoices, List.isEmpty_cons, Bool.false_eq_true, if_false] at h
      cases hdefault : f.default with
      | none =>
        rw [hdefault] at h
        cases h
        exact ⟨Value.fresh_ofChoices _, rfl⟩
      | some raw =>
        simp only [hdefault] at h
        cases hat : Value.ofChoicesAt (first :: rest) raw with
        | error problem =>
          rw [hat] at h
          cases h
        | ok w =>
          rw [hat] at h
          cases h
          refine ⟨Value.fresh_ofChoicesAt hat, ?_⟩
          unfold Value.ofChoicesAt at hat
          split_ifs at hat
          cases hat
          rfl

/-! ## Registration -/

/-- What a flag of a manifest is registered from. -/
structure Declares (f : FlagSpec) (d : FlagDecl) : Prop where
  value : f.value = .ok d.value
  names : d.names = f.names
  admissible : f.names.problem? = none

theorem exists_decl_of_register {s t : FlagSet} (h : f.register s = .ok t) :
    ∃ d, f.Declares d ∧ s.add d = .ok t := by
  unfold register at h
  cases hv : f.value with
  | error e =>
    rw [hv] at h
    cases h
  | ok v =>
    simp only [hv] at h
    split at h
    next u hadd =>
      cases h
      exact ⟨_, ⟨hv, rfl, (FlagSet.of_add hadd).1⟩, hadd⟩
    next => cases h

end FlagSpec

namespace Manifest

variable {m : Manifest} {s : FlagSet}

theorem exists_decls_of_foldlM {fs : List FlagSpec} {s t : FlagSet}
    (h : fs.foldlM (fun s f => f.register s) s = .ok t) :
    ∃ ds, List.Forall₂ FlagSpec.Declares fs ds ∧ ds.foldlM FlagSet.add s = .ok t := by
  induction fs generalizing s with
  | nil =>
    cases h
    exact ⟨[], .nil, rfl⟩
  | cons f fs ih =>
    rw [List.foldlM_cons] at h
    cases hf : f.register s with
    | error e =>
      rw [hf] at h
      cases h
    | ok u =>
      rw [hf] at h
      obtain ⟨ds, hds, hfold⟩ := ih h
      obtain ⟨d, hd, hadd⟩ := FlagSpec.exists_decl_of_register hf
      refine ⟨d :: ds, .cons hd hds, ?_⟩
      rw [List.foldlM_cons, hadd]
      exact hfold

/-- The set that a manifest describes is new, with a flag for each flag of the manifest. -/
theorem exists_decls_of_build (h : m.build = .ok s) :
    ∃ ds, List.Forall₂ FlagSpec.Declares m.flags ds ∧
      s = { m.emptySet with flags := ds.map .ofDecl } ∧ s.Tracks ds := by
  obtain ⟨ds, hds, hfold⟩ := exists_decls_of_foldlM h
  have hs := FlagSet.eq_of_foldlM_add hfold
  refine ⟨ds, hds, hs, ?_⟩
  rw [hs]
  refine FlagSet.forall₂_tracks_ofDecl fun d hd => ?_
  obtain ⟨i, hi, rfl⟩ := List.getElem_of_mem hd
  have hdecl := List.Forall₂.get hds (hds.length_eq ▸ hi) hi
  exact (FlagSpec.of_value hdecl.value).1

theorem wellNamed_of_foldlM_add {ds : List FlagDecl} {s t : FlagSet} (hs : s.WellNamed)
    (h : ds.foldlM FlagSet.add s = .ok t) : t.WellNamed := by
  induction ds generalizing s with
  | nil =>
    cases h
    exact hs
  | cons d ds ih =>
    rw [List.foldlM_cons] at h
    cases hd : s.add d with
    | error e =>
      rw [hd] at h
      cases h
    | ok u =>
      rw [hd] at h
      exact ih (FlagSet.wellNamed_of_add hs hd) h

theorem wellNamed_of_build (h : m.build = .ok s) : s.WellNamed := by
  obtain ⟨ds, -, hfold⟩ := exists_decls_of_foldlM h
  exact wellNamed_of_foldlM_add ⟨fun _ hn => absurd hn List.not_mem_nil, List.Pairwise.nil⟩ hfold

end Manifest

end LayeredFlags
