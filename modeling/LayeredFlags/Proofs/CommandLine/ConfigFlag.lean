import LayeredFlags.Proofs.Chain.Lookup
import LayeredFlags.Proofs.CommandLine.Resolving
import LayeredFlags.Proofs.Forest.Frame
import LayeredFlags.Proofs.Manifest.Building
import LayeredFlags.Proofs.Resolution.ConfigFlag

/-!
# Resolving with the configuration file named by a flag

A command may tell the path of the configuration file, or the flag whose value is that path.  Given
the same file either way, and in the same format, it reports the same on all other flags.  The
format is part of this: that of a path which is told goes by its extension, that of a path which a
flag holds is plain unless it is asked for.
-/

namespace LayeredFlags

variable {w : World} {q q' : ResolveRequest} {m : Manifest} {s : FlagSet} {i : Nat} {f g : Flag}
  {name long file path : String} {words words' : List String}

/-! ## Reports and usage -/

/-- Reports agree on the leftover arguments and on every flag but the one at an index. -/
structure Report.AgreesBut (i : Nat) (r r' : Report) : Prop where
  args : r'.args = r.args
  length : r'.flags.length = r.flags.length
  flags : ∀ j ≠ i, r'.flags[j]? = r.flags[j]?

theorem Report.agreesBut_replaceIn (s : FlagSet) (i : Nat) (g : Flag) :
    (ofSet s).AgreesBut i (ofSet (Chain.replaceIn s i g)) where
  args := rfl
  length := by simp [ofSet, Chain.replaceIn]
  flags j hj := by simp [ofSet, Chain.replaceIn, List.getElem?_set_ne hj.symm]

/-- What a flag holds is not part of its usage. -/
theorem Flag.Refilled.usageText_eq (h : f.Refilled g) : g.usageText = f.usageText := by
  rw [h.rest]
  rfl

theorem FlagSet.usageText_replaceIn (hf : s.flags[i]? = some f)
    (hg : g.usageText = f.usageText) : (Chain.replaceIn s i g).usageText = s.usageText := by
  have hflags : (s.flags.set i g).map Flag.usageText = s.flags.map Flag.usageText := by
    refine List.ext_getElem? fun j => ?_
    rw [List.getElem?_map, List.getElem?_map]
    by_cases hj : i = j
    · subst hj
      rw [List.getElem?_set_self (List.getElem?_eq_some_iff.1 hf).1, hf]
      exact congrArg some hg
    · rw [List.getElem?_set_ne hj]
  unfold usageText Chain.replaceIn
  rw [hflags]

/-! ## Requests -/

namespace ResolveRequest

/-- Two requests are for the same but that the first tells the path of the configuration file and
the second the flag that holds it, which its first argument sets to that path.  Both come to the
same format. -/
structure NamesByFlag (name long file : String) (q q' : ResolveRequest) : Prop where
  byPath : q.configFile = some (.path file)
  byFlag : q'.configFile = some (.flag name)
  args : q'.args = (FlagNames.dashedLong long ++ "=" ++ file) :: q.args
  format : q'.format = q.format
  rest : q' = { q with
    configFile := q'.configFile, configFormat := q'.configFormat, args := q'.args }

/-- Where no format is asked for, a path that is told and a path that a flag holds are read in the
same format just when the path is that of a plain file. -/
theorem format_eq_iff (hpath : q.configFile = some (.path file))
    (hflag : q'.configFile = some (.flag name)) (hnone : q.configFormat = none)
    (hnone' : q'.configFormat = none) : q'.format = q.format ↔ Format.ofPath file = .plain := by
  unfold ResolveRequest.format
  rw [hpath, hflag, hnone, hnone']
  exact eq_comm

/-- Neither the arguments nor the variables of a request give a flag a value. -/
structure LeavesAlone (w : World) (s : FlagSet) (i : Nat) (q : ResolveRequest) : Prop where
  args : ∀ a ∈ ((q.chain s).plan q.args).assignments, a.id ≠ ⟨0, i⟩
  env : ∀ f, s.flags[i]? = some f → ∀ key ∈ q.rules.keys f, w.env key = none ∨ Binds w.env key ""

theorem NamesByFlag.options_eq (h : NamesByFlag name long file q q') (w : World) :
    q'.options w.env w.openFile = (q.options w.env w.openFile).byFlag name ∧
      q.options w.env w.openFile = (q.options w.env w.openFile).byPath file := by
  obtain ⟨hpath, hflag, -, hformat, hrest⟩ := h
  constructor
  · unfold options ParseOptions.byFlag
    rw [hflag, hformat, hrest]
  · unfold options ParseOptions.byPath
    rw [hpath]

theorem NamesByFlag.chain_eq (h : NamesByFlag name long file q q') (s : FlagSet) :
    q'.chain s = q.chain s := by
  unfold chain
  rw [h.rest]

/-- The parses of two such requests go the same way, but for the flag. -/
theorem NamesByFlag.attempt_eq (h : NamesByFlag name long file q q') (hw : s.WellNamed)
    (hparsed : s.parsed = false) (hf : s.flags[i]? = some f) (htext : f.HoldsText)
    (hunset : f.isSet = false) (hlong : f.names.long = some long)
    (hname : f.names.answersTo (bareName name) = true) (halone : q.LeavesAlone w s i)
    (hfile : file ≠ "") :
    ∃ g, f.assign file .args = .ok g ∧
      q'.attempt w s = (q.attempt w s).map (·.replace ⟨0, i⟩ g) := by
  have hchain : (q.chain s).WellNamed := fun t ht => by
    rw [List.mem_singleton.1 ht]
    exact ⟨hw.admissible, hw.apart⟩
  have hflag : (q.chain s).flagAt? ⟨0, i⟩ = some f := hf
  have hlocate : (q.chain s).locateName name = some ⟨0, i⟩ := by
    refine Chain.locate_of_wellNamed (p := (·.answersTo (bareName name))) hchain hflag hname
      (fun n hn => ?_) fun t ht => by cases ht
    exact FlagNames.answersTo_of_collision? hn (FlagNames.mem_all_iff.2 hname)
  have hlocateLong : (q.chain s).locateLong long = some ⟨0, i⟩ :=
    Chain.locateLong_of_answersTo hchain hflag hlong fun t ht => by cases ht
  have hargs : (⟨0, i⟩ : FlagId) ∉ places ((q.chain s).argTier q.args) := by
    intro hmem
    obtain ⟨a, ha, hid⟩ := List.mem_map.1 hmem
    obtain ⟨b, hb, rfl⟩ := List.mem_map.1 ha
    exact halone.args b hb hid
  have hnone : consultEnv w.env f.display (q.rules.keys f) = .ok none :=
    consultEnv_of_skipped (halone.env f hf) _
  obtain ⟨hoptions', hoptions⟩ := h.options_eq w
  obtain ⟨g, hg, hparse⟩ := Chain.parse_byFlag (o := q.options w.env w.openFile) hchain hparsed
    hflag htext hunset hlocateLong hlocate hargs hnone hfile
  refine ⟨g, hg, ?_⟩
  unfold attempt
  rw [h.chain_eq, h.args, hoptions', hparse, ← hoptions]

/-- Where the parse of a request fails, its flags are those it began with but for what they hold. -/
theorem exists_refilled_attempt (hf : s.flags[i]? = some f) {e : FlagError}
    (h : (q.attempt w s).failure = some e) :
    ∃ k, (q.attempt w s).state.own.flags[i]? = some k ∧ f.Refilled k := by
  obtain ⟨d, hd, ⟨e', hparse⟩ | ⟨-, leftovers, hparse⟩⟩ :=
    (q.chain s).evolves_parse (q.options w.env w.openFile) q.args
  · rw [attempt, hparse]
    cases hd with
    | cons hown _ => exact exists_getElem?_of_forall₂ hown.refilled.flags hf
  · rw [attempt, hparse] at h
    cases h

/-- How two requests end that differ in how they name the configuration file: they fail for the same
reason, they print the same usage, or they print reports that agree on every flag but one. -/
inductive EndAlike (w : World) (m : Manifest) (i : Nat) (q q' : ResolveRequest) :
    Outcome → Outcome → Prop
  | failed (cause : CommandError) : EndAlike w m i q q' (.failed cause) (.failed cause)
  | usage {s : FlagSet} (built : m.build = .ok s)
      (asked : (q.attempt w s).failure = some .helpRequested)
      (asked' : (q'.attempt w s).failure = some .helpRequested) :
      EndAlike w m i q q' (.printed (q.attempt w s).state.own.usageText)
        (.printed (q.attempt w s).state.own.usageText)
  | reports {s : FlagSet} (built : m.build = .ok s) (parsed : (q.attempt w s).failure = none)
      (parsed' : (q'.attempt w s).failure = none)
      (agree : (Report.ofSet (q.attempt w s).state.own).AgreesBut i
        (Report.ofSet (q'.attempt w s).state.own)) :
      EndAlike w m i q q'
        (.printed ((Report.ofSet (q.attempt w s).state.own).text q.reportFormat))
        (.printed ((Report.ofSet (q'.attempt w s).state.own).text q.reportFormat))

end ResolveRequest

open ResolveRequest CommandLine

theorem FlagSpec.holdsText_ofDecl {spec : FlagSpec} {d : FlagDecl} (hkind : spec.kind = .string)
    (hd : spec.Declares d) : (Flag.ofDecl d).HoldsText := by
  have hvalue := hd.value
  unfold value at hvalue
  rw [hkind] at hvalue
  obtain ⟨x, hx, ⟨-, rfl⟩ | ⟨raw, -, hraw⟩⟩ := of_scalarValue hvalue
  · exact ⟨_, _, hx⟩
  · cases hraw
    exact ⟨_, _, hx⟩

/-- A declared text becomes a flag that holds a text and is not set, in a set that is not parsed. -/
theorem Manifest.exists_textFlag {spec : FlagSpec} (hbuild : m.build = .ok s)
    (hspec : m.flags[i]? = some spec) (hkind : spec.kind = .string) :
    s.parsed = false ∧
      ∃ f, s.flags[i]? = some f ∧ f.names = spec.names ∧ f.isSet = false ∧ f.HoldsText := by
  obtain ⟨ds, hds, rfl, -⟩ := exists_decls_of_build hbuild
  obtain ⟨d, hd, hdecl⟩ := exists_getElem?_of_forall₂ hds hspec
  have hf : (ds.map Flag.ofDecl)[i]? = some (.ofDecl d) := by rw [List.getElem?_map, hd]; rfl
  exact ⟨rfl, _, hf, hdecl.names, rfl, FlagSpec.holdsText_ofDecl hkind hdecl⟩

/-- Requests end alike if their parses go the same way but for one flag. -/
theorem endAlike_of_attempt (hc : command? words = some (.resolve path q))
    (hc' : command? words' = some (.resolve path q')) (hset : w.flagSet path = .ok s)
    (hbuild : m.build = .ok s) (hf : s.flags[i]? = some f) (hg : f.Refilled g)
    (hattempt : q'.attempt w s = (q.attempt w s).map (·.replace ⟨0, i⟩ g))
    (hformat : q'.reportFormat = q.reportFormat) :
    EndAlike w m i q q' (run w words) (run w words') := by
  have hfailure : (q'.attempt w s).failure = (q.attempt w s).failure := by
    rw [hattempt]
    rfl
  have hown : (q'.attempt w s).state.own = Chain.replaceIn (q.attempt w s).state.own i g := by
    rw [hattempt]
    rfl
  rw [run_of_flagSet hc hset, run_of_flagSet hc' hset]
  cases hfail : (q.attempt w s).failure with
  | none =>
    rw [text_of_none hfail, text_of_none (hfailure.trans hfail), hformat]
    refine .reports hbuild hfail (hfailure.trans hfail) ?_
    rw [hown]
    exact Report.agreesBut_replaceIn ..
  | some e =>
    by_cases he : e = .helpRequested
    · subst he
      obtain ⟨k, hk, hkept⟩ := exists_refilled_attempt hf hfail
      have hgk : g.usageText = k.usageText := hg.usageText_eq.trans hkept.usageText_eq.symm
      rw [text_of_helpRequested hfail, text_of_helpRequested (hfailure.trans hfail), hown,
        FlagSet.usageText_replaceIn hk hgk]
      exact .usage hbuild hfail (hfailure.trans hfail)
    · rw [text_eq_error_iff.2 ⟨hfail, he⟩, text_eq_error_iff.2 ⟨hfailure.trans hfail, he⟩]
      exact .failed _

/-- Whether the configuration file is named by its path or by a flag makes no difference to the
other flags, as long as it is read in the same format. -/
theorem endAlike_of_namesByFlag {spec : FlagSpec}
    (hc : command? words = some (.resolve path q)) (hc' : command? words' = some (.resolve path q'))
    (hload : Manifest.load w.openFile path = .ok m) (hspec : m.flags[i]? = some spec)
    (hkind : spec.kind = .string) (hlong : spec.names.long = some long)
    (hname : spec.names.answersTo (bareName name) = true) (hfile : file ≠ "")
    (hnames : NamesByFlag name long file q q')
    (halone : ∀ s, m.build = .ok s → q.LeavesAlone w s i) :
    EndAlike w m i q q' (run w words) (run w words') := by
  cases hbuild : m.build with
  | error cause =>
    have hset : w.flagSet path = .error (.build cause) := by
      simp only [World.flagSet, hload, hbuild]
    rw [run_of_flagSet_error hc hset, run_of_flagSet_error hc' hset]
    exact .failed _
  | ok s =>
    have hset : w.flagSet path = .ok s := World.flagSet_eq_ok_iff.2 ⟨m, hload, hbuild⟩
    obtain ⟨hparsed, f, hf, hfnames, hunset, htext⟩ := Manifest.exists_textFlag hbuild hspec hkind
    rw [← hfnames] at hlong hname
    obtain ⟨g, hg, hattempt⟩ := hnames.attempt_eq (Manifest.wellNamed_of_build hbuild) hparsed hf
      htext hunset hlong hname (halone s hbuild) hfile
    exact endAlike_of_attempt hc hc' hset hbuild hf (Flag.refilled_of_assign hg) hattempt
      (by rw [hnames.rest])

/-! ## An example -/

/-- A manifest of two flags for texts, and configurations that are plain and JSON. -/
def configWorld : World where
  openFile path :=
    if path = "app.yaml" then .opened (.ofString "flags:\n- long: config\n- long: level\n")
    else if path = "app.conf" then .opened (.ofString "config other\nlevel debug\n")
    else if path = "app.json" then .opened (.ofString "\x7b\"level\": \"debug\"\x7d")
    else .missing
  env _ := none

/-- What the manifest declares. -/
def configManifest : Manifest where
  flags := [{ names := { long := some "config" } }, { names := { long := some "level" } }]

theorem load_configWorld : Manifest.load configWorld.openFile "app.yaml" = .ok configManifest := by
  decide +kernel

/-- What is asked for where only the path of the configuration file is told, and YAML is to be
printed. -/
def configRequest (file : String) (args : List String) : ResolveRequest :=
  { prefixedRequest "" args with rules := {}, configFile := some (.path file) }

/-- The same, where the first argument sets the flag that holds the path. -/
def configFlagRequest (file : String) (args : List String) : ResolveRequest :=
  { configRequest file (("--config=" ++ file) :: args) with configFile := some (.flag "config") }

theorem endAlike_of_namesByFlag_sample :
    let q := configRequest "app.conf" ["rest"]
    let q' := configFlagRequest "app.conf" ["rest"]
    let words := ["resolve", "--manifest=app.yaml", "--config=app.conf", "--format=yaml", "--",
      "rest"]
    let words' := ["resolve", "--manifest=app.yaml", "--config-flag", "config", "--format=yaml",
      "--", "--config=app.conf", "rest"]
    let level := "- name: --level\n  value: debug\n  set: true\n  source: config:app.conf\n"
    command? words = some (.resolve "app.yaml" q) ∧
      command? words' = some (.resolve "app.yaml" q') ∧
      NamesByFlag "config" "config" "app.conf" q q' ∧
      run configWorld words = .printed ("flags:\n- name: --config\n  value: other\n  set: true\n" ++
        "  source: config:app.conf\n" ++ level ++ "args:\n- rest\n") ∧
      run configWorld words' = .printed ("flags:\n- name: --config\n  value: app.conf\n" ++
        "  set: true\n  source: args\n" ++ level ++ "args:\n- rest\n") ∧
      EndAlike configWorld configManifest 0 q q' (run configWorld words)
        (run configWorld words') := by
  intro q q' words words' level
  have hc : command? words = some (.resolve "app.yaml" q) := by decide +kernel
  have hc' : command? words' = some (.resolve "app.yaml" q') := by decide +kernel
  have hnames : NamesByFlag "config" "config" "app.conf" q q' :=
    ⟨rfl, rfl, rfl, (format_eq_iff rfl rfl rfl rfl).2 (by decide +kernel), rfl⟩
  have halone : ∀ s, configManifest.build = .ok s → q.LeavesAlone configWorld s 0 := by
    rintro s ⟨⟩
    exact ⟨by decide +kernel, fun _ _ _ _ => .inl rfl⟩
  refine ⟨hc, hc', hnames, by decide +kernel, by decide +kernel, ?_⟩
  exact endAlike_of_namesByFlag hc hc' load_configWorld rfl rfl rfl (by decide) (by decide) hnames
    halone

/-- A path whose extension is that of another format than the plain one makes a difference: told
outright it is read in that format, and held by a flag it is not. -/
theorem extension_read_of_path_only :
    let q := configRequest "app.json" []
    let q' := configFlagRequest "app.json" []
    let words := ["resolve", "--manifest=app.yaml", "--config=app.json", "--format=yaml"]
    let words' := ["resolve", "--manifest=app.yaml", "--config-flag=config", "--format=yaml", "--",
      "--config=app.json"]
    command? words = some (.resolve "app.yaml" q) ∧
      command? words' = some (.resolve "app.yaml" q') ∧
      Manifest.load configWorld.openFile "app.yaml" = .ok configManifest ∧
      (∀ s, configManifest.build = .ok s → q.LeavesAlone configWorld s 0) ∧
      q.configFormat = none ∧ q'.configFormat = none ∧ Format.ofPath "app.json" = .json ∧
      run configWorld words = .printed ("flags:\n- name: --config\n  value: ''\n  set: false\n" ++
        "- name: --level\n  value: debug\n  set: true\n  source: config:app.json\nargs: []\n") ∧
      run configWorld words' = .failed (.flags (.unknownFlag "\x7b\"level\":")) := by
  intro q q' words words'
  have halone : ∀ s, configManifest.build = .ok s → q.LeavesAlone configWorld s 0 := by
    rintro s ⟨⟩
    exact ⟨by decide +kernel, fun _ _ _ _ => .inl rfl⟩
  exact ⟨by decide +kernel, by decide +kernel, load_configWorld, halone, rfl, rfl,
    by decide +kernel, by decide +kernel, by decide +kernel⟩

end LayeredFlags
