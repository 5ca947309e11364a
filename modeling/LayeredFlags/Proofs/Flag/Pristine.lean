import LayeredFlags.Proofs.Chain.Names
import Mathlib.Data.List.Forall2

/-!
# Flags as they were registered

A built-in value remembers how it was made, so a flag with such a value can be traced back to its
declaration whatever was assigned to it since.  While it is not set it is exactly the flag that was
registered, and a reset brings that flag back.
-/

namespace LayeredFlags

namespace Value

variable {v w : Value} {raw : String}

/-- The value comes with the library. -/
def IsBuiltIn : Value → Prop
  | .custom .. => False
  | _ => True

/-- The value as it was made, for the built-in kinds. -/
def pristine : Value → Value
  | .scalar type _ initial => .scalar type initial initial
  | .list type unique defaults _ => .list type unique defaults none
  | .switch _ initial => .switch initial initial
  | .choice choices _ initial => .choice choices initial initial
  | .custom rules state => .custom rules state

/-- A built-in value that nothing was assigned to yet. -/
def Fresh (v : Value) : Prop :=
  v.IsBuiltIn ∧ v.pristine = v

theorem fresh_ofDefault (type : ScalarType) (d : Datum) : (ofDefault type d).Fresh := ⟨trivial, rfl⟩

theorem fresh_ofBool (b : Bool) : (ofBool b).Fresh := ⟨trivial, rfl⟩

theorem fresh_ofDefaults (type : ScalarType) (unique : Bool) (defaults : List Datum) :
    (ofDefaults type unique defaults).Fresh := ⟨trivial, rfl⟩

theorem fresh_ofChoices (choices : List String) : (ofChoices choices).Fresh := ⟨trivial, rfl⟩

theorem fresh_ofChoicesAt {choices : List String} {d : String}
    (h : ofChoicesAt choices d = .ok v) : v.Fresh := by
  unfold ofChoicesAt at h
  split_ifs at h
  cases h
  exact ⟨trivial, rfl⟩

theorem isBuiltIn_of_pristine (h : v.pristine.IsBuiltIn) : v.IsBuiltIn := by
  cases v <;> exact h

theorem pristine_of_assign (hv : v.IsBuiltIn) (h : v.assign raw = .ok w) :
    w.pristine = v.pristine := by
  cases assigned_of_assign h with
  | custom => cases hv
  | _ => rfl

theorem restore?_of_isBuiltIn (h : v.IsBuiltIn) : v.restore? = some (.ok v.pristine) := by
  cases v with
  | custom rules state => cases h
  | _ => rfl

end Value

namespace Flag

variable {d : FlagDecl} {f g : Flag}

/-- The flag as it was registered. -/
def pristine (f : Flag) : Flag :=
  { f with value := f.value.pristine, isSet := false, origin := none }

/-- The flag comes from a declaration.  It is set just when a tier or a direct assignment is
recorded, and as long as it is not set it is the flag of the declaration. -/
structure Tracks (d : FlagDecl) (f : Flag) : Prop where
  fresh : d.value.Fresh
  pristine_eq : f.pristine = .ofDecl d
  isSet_eq : f.isSet = f.origin.isSome
  eq_of_unset : f.isSet = false → f = .ofDecl d

theorem tracks_ofDecl (h : d.value.Fresh) : Tracks d (.ofDecl d) where
  fresh := h
  pristine_eq := by
    have hv : (ofDecl d).value.pristine = d.value := h.2
    unfold pristine
    rw [hv]
    rfl
  isSet_eq := rfl
  eq_of_unset _ := rfl

namespace Tracks

theorem isBuiltIn (h : Tracks d f) : f.value.IsBuiltIn := by
  have hv : f.value.pristine = d.value := congrArg Flag.value h.pristine_eq
  exact Value.isBuiltIn_of_pristine (hv ▸ h.fresh.1)

theorem assign (h : Tracks d f) {raw : String} {o : Origin} (ha : f.assign raw o = .ok g) :
    Tracks d g := by
  obtain ⟨v, hv, rfl⟩ := Flag.assign_eq_ok_iff.1 ha
  have hvalue := Value.pristine_of_assign h.isBuiltIn hv
  refine ⟨h.fresh, ?_, rfl, fun hset => nomatch hset⟩
  rw [← h.pristine_eq]
  unfold pristine
  rw [hvalue]

/-- A reset succeeds and brings back the flag that was registered. -/
theorem reset_eq (h : Tracks d f) : f.reset = .ok (.ofDecl d) := by
  unfold reset
  rw [Value.restore?_of_isBuiltIn h.isBuiltIn, Option.getD_some, ← h.pristine_eq]
  rfl

theorem text_eq_default (h : Tracks d f) (hset : f.isSet = false) : f.text = f.default := by
  rw [h.eq_of_unset hset]
  rfl

end Tracks

end Flag

namespace FlagSet

variable {ds : List FlagDecl} {s t : FlagSet}

/-- The flags of a set come from some declarations, in order. -/
def Tracks (ds : List FlagDecl) (s : FlagSet) : Prop :=
  List.Forall₂ Flag.Tracks ds s.flags

theorem forall₂_tracks_ofDecl (h : ∀ d ∈ ds, d.value.Fresh) :
    List.Forall₂ Flag.Tracks ds (ds.map .ofDecl) :=
  List.forall₂_map_right_iff.2 (List.forall₂_same.2 fun d hd => Flag.tracks_ofDecl (h d hd))

theorem resetFlags_eq {fs : List Flag} (h : List.Forall₂ Flag.Tracks ds fs) :
    resetFlags fs = (ds.map .ofDecl, none) := by
  induction h with
  | nil => rfl
  | cons hf _ ih => rw [resetFlags, hf.reset_eq, ih, List.map_cons]

theorem forall₂_ofDecl {fs : List Flag} (h : List.Forall₂ Flag.Tracks ds fs) :
    List.Forall₂ Flag.Tracks ds (ds.map .ofDecl) := by
  induction h with
  | nil => exact .nil
  | cons hf _ ih => exact .cons (Flag.tracks_ofDecl hf.fresh) ih

/-- A reset of the set succeeds and brings back all flags that were registered. -/
theorem Tracks.reset_eq (h : s.Tracks ds) :
    s.reset = ({ s with flags := ds.map .ofDecl, parsed := false, leftovers := [] }, none) := by
  unfold reset
  rw [resetFlags_eq h]

theorem Tracks.reset (h : s.Tracks ds) : s.reset.1.Tracks ds := by
  rw [h.reset_eq]
  exact forall₂_ofDecl h

theorem Tracks.add {d : FlagDecl} (h : s.Tracks ds) (hd : d.value.Fresh) (ha : s.add d = .ok t) :
    t.Tracks (ds ++ [d]) := by
  obtain ⟨-, -, rfl⟩ := of_add ha
  exact List.rel_append h (.cons (Flag.tracks_ofDecl hd) .nil)

end FlagSet

end LayeredFlags
