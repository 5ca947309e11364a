import LayeredFlags.Proofs.Flag.Pristine
import LayeredFlags.Proofs.Resolution.Stages
import Mathlib.Logic.Relation

/-!
# Evolution of chains

Direct assignments and parses do no more to the sets of a chain than assign their flags, one string
after another, in whatever tier they end.  A parse that succeeds marks its own set besides, and a
reset touches its own set only.  So a flag that comes from a declaration keeps coming from it.
-/

namespace LayeredFlags

/-- A flag turns into another by assignments that it accepts. -/
def Flag.Evolves : Flag → Flag → Prop :=
  Relation.ReflTransGen fun f g => ∃ raw o, f.assign raw o = .ok g

/-- Nothing happens to a set but that its flags are assigned. -/
structure FlagSet.Evolves (s t : FlagSet) : Prop where
  flags : List.Forall₂ Flag.Evolves s.flags t.flags
  rest : t = { s with flags := t.flags }

/-- Nothing happens to the sets of a chain but that their flags are assigned. -/
def Chain.Evolves (c d : Chain) : Prop :=
  List.Forall₂ FlagSet.Evolves c.sets d.sets

/-- Related lists stay related when an element is changed along with the relation. -/
theorem forall₂_modify {α β : Type} {R : α → β → Prop} {xs : List α} {ys : List β} {i : Nat}
    {g : β → β} (h : List.Forall₂ R xs ys) (hg : ∀ x y, ys[i]? = some y → R x y → R x (g y)) :
    List.Forall₂ R xs (ys.modify i g) := by
  induction h generalizing i with
  | nil => rw [List.modify_nil]; exact .nil
  | cons hr htail ih =>
    cases i with
    | zero => exact .cons (hg _ _ rfl hr) htail
    | succ i => exact .cons hr (ih hg)

theorem exists_getElem?_of_forall₂ {α β : Type} {R : α → β → Prop} {xs : List α} {ys : List β}
    (h : List.Forall₂ R xs ys) {i : Nat} {x : α} (hx : xs[i]? = some x) :
    ∃ y, ys[i]? = some y ∧ R x y := by
  obtain ⟨hi, rfl⟩ := List.getElem?_eq_some_iff.1 hx
  obtain ⟨hlen, hget⟩ := List.forall₂_iff_get.1 h
  exact ⟨ys[i], List.getElem?_eq_getElem (hlen ▸ hi), hget i hi (hlen ▸ hi)⟩

/-! ## Flags and sets -/

theorem FlagSet.Evolves.refl (s : FlagSet) : s.Evolves s :=
  ⟨List.forall₂_same.2 fun _ _ => .refl, rfl⟩

/-- A set still evolves from another when one more of its flags takes an assignment. -/
theorem FlagSet.Evolves.replaceIn {s t : FlagSet} (h : s.Evolves t) {i : Nat} {f g : Flag}
    {raw : String} {o : Origin} (hf : t.flags[i]? = some f) (ha : f.assign raw o = .ok g) :
    s.Evolves (Chain.replaceIn t i g) := by
  refine ⟨?_, by rw [h.rest]; rfl⟩
  have hset : (Chain.replaceIn t i g).flags = t.flags.modify i fun _ => g :=
    List.set_eq_modify ..
  rw [hset]
  refine forall₂_modify h.flags fun f₀ f' hf' he => ?_
  obtain rfl := Option.some.inj (hf.symm.trans hf')
  exact he.tail ⟨raw, o, ha⟩

theorem Flag.Tracks.evolves {d : FlagDecl} {f g : Flag} (h : Tracks d f) (he : f.Evolves g) :
    Tracks d g := by
  induction he with
  | refl => exact h
  | tail _ hstep ih =>
    obtain ⟨raw, o, ha⟩ := hstep
    exact ih.assign ha

theorem FlagSet.Tracks.evolves {ds : List FlagDecl} {s t : FlagSet} (h : s.Tracks ds)
    (he : s.Evolves t) : t.Tracks ds := by
  have key {fs gs : List Flag} (he : List.Forall₂ Flag.Evolves fs gs) {ds : List FlagDecl}
      (h : List.Forall₂ Flag.Tracks ds fs) : List.Forall₂ Flag.Tracks ds gs := by
    induction he generalizing ds with
    | nil => exact h
    | cons hfg _ ih =>
      cases h with
      | cons hd htail => exact .cons (hd.evolves hfg) (ih htail)
  exact key he.flags h

namespace Chain

variable {c d : Chain}

/-! ## Operations -/

theorem Evolves.refl (c : Chain) : c.Evolves c :=
  List.forall₂_same.2 fun s _ => .refl s

theorem Evolves.assign (h : c.Evolves d) (id : FlagId) (raw : String) (o : Origin) :
    c.Evolves (d.assign id raw o).state := by
  obtain ⟨-, e⟩ | ⟨f, g, hf, hg, e⟩ | ⟨f, p, -, -, e⟩ := assign_cases d id raw o <;> rw [e]
  · exact h
  · obtain ⟨s, hs, hf⟩ := flagAt?_eq_some_iff.1 hf
    unfold Evolves
    rw [sets_replace]
    refine forall₂_modify h fun s₀ s' hs' he => ?_
    obtain rfl := Option.some.inj (hs.symm.trans hs')
    exact he.replaceIn hf hg
  · exact h

theorem evolves_set (c : Chain) (name value : String) : c.Evolves (c.set name value).state := by
  unfold set
  cases c.locateName name with
  | none => exact .refl c
  | some id => exact (Evolves.refl c).assign id value .manual

/-- A parse assigns flags and fails, or assigns flags and marks the set, which was not parsed
before. -/
theorem evolves_parse (o : ParseOptions) (args : List String) (c : Chain) :
    ∃ d, c.Evolves d ∧ ((∃ e, c.parse o args = ⟨d, some e⟩) ∨
      c.own.parsed = false ∧ ∃ leftovers, c.parse o args = finish leftovers d) :=
  kept_parse (fun _ id raw o h => h.assign id raw o) (.refl c) o args

end Chain

end LayeredFlags
