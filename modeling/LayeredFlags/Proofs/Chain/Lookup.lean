import LayeredFlags.Proofs.Forest.Lineage

/-!
# Lookups by name

In a set that was built by registering flags no bare name belongs to two flags, and a registration
is refused as a duplicate just when it would make one.  So a lookup by a name of a flag finds that
very flag unless a nearer set answers to the name, whatever was registered first.
-/

namespace LayeredFlags

namespace FlagNames

variable {n : FlagNames} {l : String}

theorem nodup_all (h : n.problem? = none) : n.all.Nodup := by
  obtain ⟨short, long⟩ := n
  cases short with
  | none => cases long <;> simp [all]
  | some c =>
    cases long with
    | none => simp [all]
    | some l =>
      have hne : l ≠ String.singleton c := by
        rintro rfl
        simp only [problem?] at h
        split_ifs at h
      simpa [all] using hne.symm

theorem answersTo_of_collision? {m : FlagNames} (h : m.collision? n = none) (hl : l ∈ n.all) :
    m.answersTo l = false := by
  rw [← Bool.not_eq_true, ← mem_all_iff]
  exact fun hm => collision?_eq_none_iff.1 h hm hl

theorem head_ne_dash_of_longAllowed (h : longAllowed l = true) : l.toList.head? ≠ some '-' := by
  simp only [longAllowed, Bool.not_eq_true', Bool.or_eq_false_iff] at h
  obtain ⟨⟨⟨-, hdash⟩, -⟩, -⟩ := h
  simpa using hdash

theorem head_ne_dash_of_mem_all (h : n.problem? = none) (hl : l ∈ n.all) :
    l.toList.head? ≠ some '-' := by
  obtain ⟨hshort, hlong, -⟩ := allowed_of_problem? h
  revert l
  rw [forall_mem_all]
  constructor
  · intro c hc
    simpa using ne_dash_of_shortAllowed (hshort c hc)
  · intro l hl
    exact head_ne_dash_of_longAllowed (hlong l hl)

end FlagNames

/-- A name behind some dashes. -/
def dashed (count : Nat) (name : String) : String :=
  String.ofList (List.replicate count '-') ++ name

theorem dashed_zero (name : String) : dashed 0 name = name :=
  String.empty_append

theorem bareName_dashed (count : Nat) {name : String} (h : name.toList.head? ≠ some '-') :
    bareName (dashed count name) = name := by
  have hrest : Text.dropDashes name.toList = name.toList := by
    unfold Text.dropDashes
    cases hs : name.toList with
    | nil => rfl
    | cons c s =>
      have hc : ¬ (c == '-') = true := by simpa [hs] using h
      exact List.dropWhile_cons_of_neg hc
  unfold bareName dashed
  rw [String.toList_append, String.toList_ofList, Text.dropDashes, List.dropWhile_append_of_pos]
  · rw [← Text.dropDashes, hrest, String.ofList_toList]
  · intro c hc
    rw [List.eq_of_mem_replicate hc]
    rfl

namespace FlagSet

variable {s : FlagSet} {d : FlagDecl}

/-! ## Names of a set -/

/-- No bare name stands twice in a set. -/
theorem nodup_names (hs : s.WellNamed) : (s.flags.flatMap (·.names.all)).Nodup := by
  rw [List.nodup_flatMap]
  constructor
  · intro f hf
    exact FlagNames.nodup_all (hs.admissible f.names (List.mem_map_of_mem hf))
  · have hapart := hs.apart
    rw [List.pairwise_map] at hapart
    exact hapart.imp FlagNames.collision?_eq_none_iff.1

theorem index_eq_of_answersTo (hs : s.WellNamed) {name : String} {i j : Nat} {f g : Flag}
    (hf : s.flags[i]? = some f) (hg : s.flags[j]? = some g)
    (hfn : f.names.answersTo name = true) (hgn : g.names.answersTo name = true) : i = j := by
  have key {i : Nat} {f : Flag} (hf : s.flags[i]? = some f) (hfn : f.names.answersTo name = true) :
      s.flags.findIdx? (·.names.answersTo name) = some i := by
    refine findIdx?_eq_of_wellNamed (p := (·.answersTo name)) hs hf hfn fun n hn => ?_
    exact FlagNames.answersTo_of_collision? hn (FlagNames.mem_all_iff.2 hfn)
  exact Option.some.inj ((key hf hfn).symm.trans (key hg hgn))

/-! ## Duplicates -/

/-- Some flag of the set answers to a name of the declared flag. -/
def Clashes (s : FlagSet) (d : FlagDecl) : Prop :=
  ∃ f ∈ s.flags, ∃ name ∈ d.names.all, f.names.answersTo name = true

/-- A switch that is on from the beginning and has no name to turn it off by. -/
def StuckOn (d : FlagDecl) : Prop :=
  d.value.isBool = true ∧ d.value.text = "true" ∧ d.names.long = none

theorem clashes_iff :
    s.Clashes d ↔ s.flags.findSome? (·.names.collision? d.names) ≠ none := by
  have key (f : Flag) : f.names.collision? d.names = none ↔
      ¬ ∃ name ∈ d.names.all, f.names.answersTo name = true := by
    rw [FlagNames.collision?_eq_none_iff, List.disjoint_right]
    simp only [FlagNames.mem_all_iff, not_exists, not_and]
  rw [Ne, List.findSome?_eq_none_iff, Clashes]
  simp only [key, not_forall, not_not, exists_prop]

theorem stuckOn_iff :
    ((Flag.ofDecl d).isBool && (Flag.ofDecl d).default == "true" &&
      (Flag.ofDecl d).names.long.isNone) = true ↔ StuckOn d := by
  simp [StuckOn, Flag.isBool, Flag.ofDecl, and_assoc]

theorem add_of_stuckOn (hnames : d.names.problem? = none) (h : StuckOn d) :
    s.add d = .error (.invalidName (.needsLong d.names.listing)) := by
  unfold add
  simp only [hnames, if_pos (stuckOn_iff.2 h)]
  rfl

/-- What registering a flag with admissible names does: it is refused as a duplicate, or the flag
stands last in the set. -/
theorem add_eq (hnames : d.names.problem? = none) (hstuck : ¬ StuckOn d) :
    s.add d = match s.flags.findSome? (·.names.collision? d.names) with
      | some name => .error (.duplicateFlag name)
      | none => .ok { s with flags := s.flags ++ [.ofDecl d] } := by
  unfold add
  simp only [hnames, if_neg (mt stuckOn_iff.1 hstuck)]
  rfl

theorem add_eq_duplicate_iff (hnames : d.names.problem? = none) (hstuck : ¬ StuckOn d) :
    (∃ name, s.add d = .error (.duplicateFlag name)) ↔ s.Clashes d := by
  rw [add_eq hnames hstuck, clashes_iff]
  cases s.flags.findSome? (·.names.collision? d.names) <;> simp

theorem add_eq_ok_iff (hnames : d.names.problem? = none) (hstuck : ¬ StuckOn d) :
    s.add d = .ok { s with flags := s.flags ++ [.ofDecl d] } ↔ ¬ s.Clashes d := by
  rw [add_eq hnames hstuck, clashes_iff]
  cases s.flags.findSome? (·.names.collision? d.names) <;> simp

end FlagSet

namespace Chain

variable {c : Chain} {id : FlagId} {f : Flag} {name : String}

/-- A lookup by one of its names, behind any number of dashes, finds a flag just when no nearer set
answers to the name. -/
theorem locateName_eq_some_iff (hw : c.WellNamed) (hf : c.flagAt? id = some f)
    (hname : name ∈ f.names.all) (count : Nat) :
    c.locateName (dashed count name) = some id ↔
      ∀ s ∈ c.sets.take id.depth, ∀ g ∈ s.flags, g.names.answersTo name = false := by
  have hdash := FlagNames.head_ne_dash_of_mem_all (problem?_of_wellNamed hw hf) hname
  unfold locateName
  rw [bareName_dashed count hdash]
  constructor
  · intro h
    obtain ⟨-, -, -, hnear⟩ := locate_eq_some_iff.1 h
    exact hnear
  · intro hnear
    refine locate_of_wellNamed (p := (·.answersTo name)) hw hf (FlagNames.mem_all_iff.1 hname)
      (fun n hn => ?_) hnear
    exact FlagNames.answersTo_of_collision? hn hname

theorem locateName_own (hw : c.WellNamed) {i : Nat} (hf : c.flagAt? ⟨0, i⟩ = some f)
    (hname : name ∈ f.names.all) (count : Nat) :
    c.locateName (dashed count name) = some ⟨0, i⟩ := by
  rw [locateName_eq_some_iff hw hf hname]
  -- no set is nearer than the chain's own
  intro s hs
  cases hs

/-- A long token finds a flag with that long name in either mode, where no nearer set answers to
it. -/
theorem locateLong_of_answersTo (hw : c.WellNamed) (hf : c.flagAt? id = some f)
    (hname : f.names.long = some name)
    (hnear : ∀ s ∈ c.sets.take id.depth, ∀ g ∈ s.flags, g.names.answersTo name = false) :
    c.locateLong name = some id := by
  have hlong : f.names.hasLong name = true := FlagNames.hasLong_iff.2 hname
  have hother {n : FlagNames} (h : n.answersTo name = false) :
      (n.hasLong name || (c.own.compat && n.answersTo name)) = false := by
    have hn : n.hasLong name = false := by
      rw [← Bool.not_eq_true, FlagNames.hasLong_iff]
      intro hlong
      rw [FlagNames.answersTo_iff.2 (.inr hlong)] at h
      cases h
    rw [hn, h, Bool.and_false, Bool.or_false]
  have hmem : name ∈ f.names.all := FlagNames.mem_all_iff.2 (FlagNames.answersTo_iff.2 (.inr hname))
  refine locate_of_wellNamed (p := fun n => n.hasLong name || (c.own.compat && n.answersTo name))
    hw hf (by rw [hlong, Bool.true_or]) (fun n hn => hother ?_) fun s hs g hg => hother ?_
  · exact FlagNames.answersTo_of_collision? hn hmem
  · exact hnear s hs g hg

end Chain

namespace Forest

/-- Names in a chain: no bare name has two flags of one set, a name reaches the nearest flag that
answers to it, and a registration is refused where it would give a name a second flag. -/
structure NamesReach (f : Forest) (id : Nat) (c : Chain) : Prop where
  distinct : ∀ s ∈ c.sets, (s.flags.flatMap (·.names.all)).Nodup
  at_most_one : ∀ s ∈ c.sets, ∀ name (i j : Nat) (g h : Flag), s.flags[i]? = some g →
    s.flags[j]? = some h → g.names.answersTo name = true → h.names.answersTo name = true → i = j
  /-- A name of an own flag finds that very flag, behind any number of dashes. -/
  own_found : ∀ (i : Nat) g, c.own.flags[i]? = some g → ∀ name ∈ g.names.all, ∀ count,
    c.locateName (dashed count name) = some ⟨0, i⟩
  /-- A name of any flag finds it just when no nearer set answers to the name. -/
  found_iff : ∀ place g, c.flagAt? place = some g → ∀ name ∈ g.names.all, ∀ count,
    (c.locateName (dashed count name) = some place ↔
      ∀ s ∈ c.sets.take place.depth, ∀ h ∈ s.flags, h.names.answersTo name = false)
  /-- An admissible flag is a duplicate just when an own flag answers to one of its names, and is
  taken otherwise. -/
  duplicate_iff : ∀ d, d.names.problem? = none → ¬ FlagSet.StuckOn d →
    ((∃ name, c.own.add d = .error (.duplicateFlag name)) ↔ c.own.Clashes d) ∧
      (c.own.add d = .ok { c.own with flags := c.own.flags ++ [.ofDecl d] } ↔ ¬ c.own.Clashes d)
  /-- A flag that is refused, for whatever reason, changes nothing. -/
  refused : ∀ d e, c.own.add d = .error e → f.register id d = ⟨f, some e⟩

/-- After any history of calls, the names in every chain reach their flags. -/
theorem namesReach_after {calls : List Call} {id : Nat} {c : Chain}
    (h : (after calls).chain? id = some c) : (after calls).NamesReach id c := by
  have hw := Chain.wellNamed_of_history h
  refine ⟨fun s hs => FlagSet.nodup_names (hw s hs), fun s hs name i j g h => ?_,
    fun i g hg name hname count => ?_,
    fun place g hg name hname count => Chain.locateName_eq_some_iff hw hg hname count,
    fun d hnames hstuck => ?_, fun d e hd => register_of_error (setAt?_of_chain? h) hd⟩
  · exact FlagSet.index_eq_of_answersTo (hw s hs)
  · have hg : c.flagAt? ⟨0, i⟩ = some g := Chain.flagAt?_eq_some_iff.2 ⟨c.own, rfl, hg⟩
    exact Chain.locateName_own hw hg hname count
  · exact ⟨FlagSet.add_eq_duplicate_iff hnames hstuck, FlagSet.add_eq_ok_iff hnames hstuck⟩

theorem namesReach_after_sample :
    (after Chain.sampleHistory).chain? 0 = some Chain.grownChain ∧
      (after Chain.sampleHistory).NamesReach 0 Chain.grownChain :=
  ⟨Chain.chain?_sampleHistory, namesReach_after Chain.chain?_sampleHistory⟩

end Forest

end LayeredFlags
