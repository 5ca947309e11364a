import LayeredFlags.Proofs.Chain.Assigning
import LayeredFlags.Proofs.Chain.Lookup

/-!
# Setting a flag by name

A string that is set by name goes to the nearest flag that answers to the name.  If there is none,
or its value refuses the string, no set of the forest changes; otherwise that flag alone does.
-/

namespace LayeredFlags

namespace Chain

variable {c : Chain} {name value : String}

/-! ## The nearest flag -/

/-- No flag answers to a name. -/
def Unanswered (c : Chain) (name : String) : Prop :=
  ∀ place f, c.flagAt? place = some f → f.names.answersTo (bareName name) = false

/-- A flag answers to a name, and all others that do belong to sets further away. -/
structure Nearest (c : Chain) (name : String) (place : FlagId) (f : Flag) : Prop where
  flagAt : c.flagAt? place = some f
  answers : f.names.answersTo (bareName name) = true
  others : ∀ place' g, c.flagAt? place' = some g → g.names.answersTo (bareName name) = true →
    place' ≠ place → place.depth < place'.depth

theorem nearest_of_locateName (hw : c.WellNamed) {place : FlagId}
    (h : c.locateName name = some place) : ∃ f, c.Nearest name place f := by
  obtain ⟨f, hf, hanswers⟩ := flagAt?_of_locate h
  obtain ⟨s, hs, -, hnear⟩ := locate_eq_some_iff.1 h
  refine ⟨f, hf, hanswers, fun place' g hg hgname hne => ?_⟩
  obtain ⟨t, ht, hgt⟩ := flagAt?_eq_some_iff.1 hg
  obtain hlt | heq | hgt' := Nat.lt_trichotomy place.depth place'.depth
  · exact hlt
  · -- in one set no two flags answer to a name
    rw [← heq, hs] at ht
    obtain rfl := Option.some.inj ht
    obtain ⟨s', hs', hfs⟩ := flagAt?_eq_some_iff.1 hf
    obtain rfl := Option.some.inj (hs.symm.trans hs')
    have hw : s.WellNamed := hw s (List.mem_of_getElem? hs)
    exact absurd (FlagSet.index_eq_of_answersTo hw hgt hfs hgname hanswers)
      (FlagId.index_ne hne heq.symm)
  · have hmem : t ∈ c.sets.take place.depth :=
      List.mem_of_getElem? ((List.getElem?_take_of_lt hgt').trans ht)
    rw [hnear t hmem g (List.mem_of_getElem? hgt)] at hgname
    cases hgname

/-! ## Chains -/

/-- How setting a string by name ends for a chain. -/
inductive SetOutcome (c : Chain) (name value : String) : Attempt Chain → Prop
  | unknown (unanswered : c.Unanswered name) :
      SetOutcome c name value ⟨c, some (.unknownFlag name)⟩
  | rejected {place : FlagId} {f : Flag} {problem : ValueProblem}
      (nearest : c.Nearest name place f) (refused : f.value.assign value = .error problem) :
      SetOutcome c name value ⟨c, some (.valueRejected f.display value problem)⟩
  | assigned {place : FlagId} {f : Flag} {v : Value}
      (nearest : c.Nearest name place f) (accepted : f.value.assign value = .ok v) :
      SetOutcome c name value ⟨c.replace place (f.given v .manual), none⟩

theorem setOutcome_set (hw : c.WellNamed) (name value : String) :
    c.SetOutcome name value (c.set name value) := by
  unfold set
  cases hname : c.locateName name with
  | none => exact .unknown (locate_eq_none_iff.1 hname)
  | some place =>
    obtain ⟨f, hnear⟩ := nearest_of_locateName hw hname
    obtain ⟨hnone, -⟩ | ⟨f', g, hf, hg, e⟩ | ⟨f', e, hf, herror, ha⟩ :=
      assign_cases c place value .manual
    · rw [hnear.flagAt] at hnone
      cases hnone
    · obtain rfl := Option.some.inj (hnear.flagAt.symm.trans hf)
      obtain ⟨v, hv, rfl⟩ := Flag.assign_eq_ok_iff.1 hg
      simp only [e]
      exact .assigned hnear hv
    · obtain rfl := Option.some.inj (hnear.flagAt.symm.trans hf)
      obtain ⟨problem, hproblem, rfl⟩ := Flag.assign_eq_error_iff.1 herror
      simp only [ha]
      exact .rejected hnear hproblem

end Chain

/-! ## Forests -/

namespace Forest

variable {f : Forest} {id : Nat} {c : Chain} {name value : String}

/-- How setting a string by name ends for all sets: without a trace, or with one flag set by
hand. -/
inductive SetOutcome (f : Forest) (id : Nat) (c : Chain) (name value : String) :
    Attempt Forest → Prop
  /-- No flag of the chain answers to the name, and nothing changes. -/
  | unknown (unanswered : c.Unanswered name) :
      SetOutcome f id c name value ⟨f, some (.unknownFlag name)⟩
  /-- The value of the nearest flag refuses the string, and nothing changes. -/
  | rejected {place : FlagId} {g : Flag} {problem : ValueProblem}
      (nearest : c.Nearest name place g) (refused : g.value.assign value = .error problem) :
      SetOutcome f id c name value ⟨f, some (.valueRejected g.display value problem)⟩
  /-- The value of the nearest flag takes the string.  The flag is set by hand then, and all other
  flags are as they were. -/
  | assigned {place : FlagId} {g : Flag} {v : Value} {member : Nat} {f' : Forest} {d : Chain}
      (nearest : c.Nearest name place g) (accepted : g.value.assign value = .ok v)
      (at_member : (f.lineage id)[place.depth]? = some member)
      (changed : f' = f.modifySet member (Chain.replaceIn · place.index (g.given v .manual)))
      (chain : f'.chain? id = some d) (given : d.flagAt? place = some (g.given v .manual))
      (others : ∀ place' ≠ place, d.flagAt? place' = c.flagAt? place') :
      SetOutcome f id c name value ⟨f', none⟩

theorem exists_member (hc : f.chain? id = some c) {k : Nat} {s : FlagSet}
    (hs : c.sets[k]? = some s) : ∃ i, (f.lineage id)[k]? = some i := by
  have hlen : (f.lineage id).length = c.sets.length := by
    simpa using congrArg List.length (chain?_eq_some_iff.1 hc)
  have hk : k < (f.lineage id).length := hlen ▸ (List.getElem?_eq_some_iff.1 hs).1
  exact ⟨_, List.getElem?_eq_getElem hk⟩

theorem setOutcome_of_chain? (hf : f.Acyclic) (hw : c.WellNamed) (hc : f.chain? id = some c) :
    f.SetOutcome id c name value (f.perform (.set id name value)) := by
  rw [perform]
  generalize ha : c.set name value = a
  have houtcome := Chain.setOutcome_set hw name value
  rw [ha] at houtcome
  cases houtcome with
  | unknown hnone =>
    rw [onChain_of_failure hc ha]
    exact .unknown hnone
  | rejected hnear hrefused =>
    rw [onChain_of_failure hc ha]
    exact .rejected hnear hrefused
  | @assigned place g v hnear hv =>
    obtain ⟨s, hs, -⟩ := Chain.flagAt?_eq_some_iff.1 hnear.flagAt
    obtain ⟨member, hmember⟩ := exists_member hc hs
    have hsets := Chain.sets_replace c place (g.given v .manual)
    have hchain := chain?_modifySet (hf.above id) hc hsets hmember
    rw [onChain_of_modify (hf.above id) hc ha hsets hmember]
    exact .assigned hnear hv hmember rfl hchain (Chain.flagAt?_replace_self hnear.flagAt)
      fun place' => Chain.flagAt?_replace_of_ne

/-- After any history, a string that is set by name leaves no trace or sets the nearest flag. -/
theorem setOutcome_perform {calls : List Call} (h : (after calls).chain? id = some c)
    (name value : String) :
    (after calls).SetOutcome id c name value ((after calls).perform (.set id name value)) :=
  setOutcome_of_chain? (acyclic_after calls) (Chain.wellNamed_of_history h) h

/-- A number that is refused, and a switch of the parent that is turned on. -/
theorem setOutcome_perform_sample :
    let f := after Chain.sampleHistory
    f.chain? 0 = some Chain.grownChain ∧
      (f.perform (.set 0 "n" "many")).failure = some (.valueRejected "-n" "many" .invalidDigit) ∧
      f.SetOutcome 0 Chain.grownChain "n" "many" (f.perform (.set 0 "n" "many")) ∧
      (f.perform (.set 0 "--verbose" "T")).failure = none ∧
      f.SetOutcome 0 Chain.grownChain "--verbose" "T" (f.perform (.set 0 "--verbose" "T")) :=
  ⟨Chain.chain?_sampleHistory, by decide, setOutcome_perform Chain.chain?_sampleHistory _ _,
    by decide, setOutcome_perform Chain.chain?_sampleHistory _ _⟩

end Forest

end LayeredFlags
