import LayeredFlags.Keys.Index
import LayeredFlags.Proofs.Chain.Addressing

/-!
# Owners of keys

A key that one flag of a chain derives and no other has that flag as its only owner in the index.
If all keys are like that, the index has no clash.
-/

namespace LayeredFlags

namespace KeyRules

/-- The names of a flag that derive keys. -/
def names (r : KeyRules) (f : Flag) : List String :=
  f.names.long.toList ++
    if r.shortNames then (f.names.short.map String.singleton).toList else []

theorem mem_keys_iff {r : KeyRules} {f : Flag} {key : String} :
    key ∈ r.keys f ↔ ∃ name ∈ r.names f, r.key name = key := by
  have hmem (long short : Option String) :
      key ∈ (if short == long then long.toList else long.toList ++ short.toList) ↔
        key ∈ long.toList ++ short.toList := by
    split_ifs with hsame
    · -- a key that both names derive is listed once
      rw [beq_iff_eq.1 hsame, List.mem_append, or_self]
    · rfl
  have hlong : (f.names.long.map r.key).toList = f.names.long.toList.map r.key := by
    cases f.names.long <;> rfl
  have hshort : (if r.shortNames then f.names.short.map fun c => r.key (String.singleton c)
      else none).toList =
        (if r.shortNames then (f.names.short.map String.singleton).toList else []).map r.key := by
    split_ifs
    · cases f.names.short <;> rfl
    · rfl
  rw [names, ← List.mem_map, List.map_append, ← hlong, ← hshort]
  exact hmem _ _

end KeyRules

/-- A flag derives a key that no other flag of the chain derives. -/
structure Chain.OwnsKey (c : Chain) (r : KeyRules) (id : FlagId) (f : Flag) (key : String) :
    Prop where
  flag : c.flagAt? id = some f
  derived : key ∈ r.keys f
  only : ∀ id' g, c.flagAt? id' = some g → key ∈ r.keys g → id' = id

/-- No key is derived by two flags of the chain. -/
def Chain.KeysApart (c : Chain) (r : KeyRules) : Prop :=
  ∀ id f key, c.flagAt? id = some f → key ∈ r.keys f → c.OwnsKey r id f key

namespace Chain

variable {c : Chain} {r : KeyRules} {p : FlagId × Flag} {key : String}

/-- A flag derives a key that a flag at another place of the chain derives too. -/
def SharesKey (c : Chain) (r : KeyRules) (p : FlagId × Flag) (key : String) : Prop :=
  key ∈ r.keys p.2 ∧ ∃ q ∈ c.located, q.1 ≠ p.1 ∧ key ∈ r.keys q.2

theorem keysApart_iff : c.KeysApart r ↔ ∀ p ∈ c.located, ∀ key, ¬ c.SharesKey r p key := by
  constructor
  · rintro h p hp key ⟨hkey, q, hq, hne, hkey'⟩
    have hown := h p.1 p.2 key (mem_located_iff.1 hp) hkey
    exact hne (hown.only q.1 q.2 (mem_located_iff.1 hq) hkey')
  · intro h id f key hf hkey
    refine ⟨hf, hkey, fun id' g hg hkey' => ?_⟩
    by_contra hne
    exact h (id, f) (mem_located_iff.2 hf) key ⟨hkey, (id', g), mem_located_iff.2 hg, hne, hkey'⟩

/-- The flags that derive a key, in the order of the walk. -/
def holders (c : Chain) (r : KeyRules) (key : String) : List (FlagId × Flag) :=
  c.located.filter fun p => (r.keys p.2).contains key

theorem mem_holders_iff : p ∈ c.holders r key ↔ p ∈ c.located ∧ key ∈ r.keys p.2 := by
  rw [holders, List.mem_filter, List.contains_iff_mem]

theorem nodup_holders (c : Chain) (r : KeyRules) (key : String) :
    ((c.holders r key).map Prod.fst).Nodup :=
  (List.filter_sublist.map Prod.fst).nodup (nodup_located c)

end Chain

namespace KeyIndex

variable {r : KeyRules} {c : Chain} {id : FlagId} {f : Flag} {p : FlagId × Flag} {key : String}
  {e : FlagError}

theorem mem_entries_ofChain {entry : KeyEntry} :
    entry ∈ (ofChain r c).entries ↔
      ∃ id f, c.flagAt? id = some f ∧ ⟨id, f.display, r.keys f⟩ = entry := by
  simp only [ofChain, List.mem_map, Prod.exists, Chain.mem_located_iff]

theorem nodup_entries (r : KeyRules) (c : Chain) : (ofChain r c).entries.Nodup := by
  have hids : ((ofChain r c).entries.map KeyEntry.id).Nodup := by
    unfold ofChain
    rw [List.map_map]
    exact Chain.nodup_located c
  exact List.Nodup.of_map KeyEntry.id hids

/-- A key that one flag derives and no other belongs to that flag. -/
theorem owners_eq_singleton (h : c.OwnsKey r id f key) :
    (ofChain r c).owners key = [⟨id, f.display, r.keys f⟩] := by
  have hmem : ⟨id, f.display, r.keys f⟩ ∈ (ofChain r c).entries :=
    mem_entries_ofChain.2 ⟨id, f, h.flag, rfl⟩
  have hown : ∀ entry ∈ (ofChain r c).entries,
      entry.keys.contains key = (entry == ⟨id, f.display, r.keys f⟩) := by
    intro entry hentry
    obtain ⟨id', g, hg, rfl⟩ := mem_entries_ofChain.1 hentry
    rw [Bool.eq_iff_iff, List.contains_iff_mem, beq_iff_eq]
    constructor
    · intro hkey
      obtain rfl := h.only id' g hg hkey
      obtain rfl := Option.some.inj (h.flag.symm.trans hg)
      rfl
    · intro e
      rw [KeyEntry.mk.injEq] at e
      exact e.2.2 ▸ h.derived
  unfold owners
  rw [List.filter_congr hown, List.filter_beq, List.count_eq_one_of_mem (nodup_entries r c) hmem]
  rfl

/-! ## Clashes -/

theorem owners_ofChain (r : KeyRules) (c : Chain) (key : String) :
    (ofChain r c).owners key = (c.holders r key).map fun (id, f) => ⟨id, f.display, r.keys f⟩ :=
  List.filter_map

theorem clashOn?_eq_some_iff {entry : KeyEntry} :
    (ofChain r c).clashOn? entry key = some e ↔
      ∃ first second rest, c.holders r key = first :: second :: rest ∧
        e = .duplicateKey key entry.flag second.2.display := by
  unfold clashOn?
  rw [owners_ofChain]
  match c.holders r key with
  | [] => simp
  | [first] => simp
  | first :: second :: rest =>
    constructor
    · rintro ⟨⟩
      exact ⟨first, second, rest, rfl, rfl⟩
    · rintro ⟨_, _, _, hholders, rfl⟩
      cases hholders
      rfl

/-- A flag clashes on a key just when it shares it. -/
theorem clashOn?_eq_none_iff {entry : KeyEntry} (hp : p ∈ c.located) (hkey : key ∈ r.keys p.2) :
    (ofChain r c).clashOn? entry key = none ↔ ¬ c.SharesKey r p key := by
  have hown : p ∈ c.holders r key := Chain.mem_holders_iff.2 ⟨hp, hkey⟩
  rw [Option.eq_none_iff_forall_ne_some]
  constructor
  · rintro h ⟨-, q, hq, hne, hkey'⟩
    have hother : q ∈ c.holders r key := Chain.mem_holders_iff.2 ⟨hq, hkey'⟩
    match hholders : c.holders r key with
    | [] =>
      rw [hholders] at hown
      cases hown
    | [first] =>
      rw [hholders, List.mem_singleton] at hown hother
      exact hne (congrArg Prod.fst (hother.trans hown.symm))
    | first :: second :: rest =>
      exact h _ (clashOn?_eq_some_iff.2 ⟨first, second, rest, hholders, rfl⟩)
  · intro h e he
    obtain ⟨first, second, rest, hholders, -⟩ := clashOn?_eq_some_iff.1 he
    have hnodup := Chain.nodup_holders c r key
    rw [hholders, List.map_cons, List.map_cons, List.nodup_cons] at hnodup
    have hne : first.1 ≠ second.1 := fun heq => hnodup.1 (heq ▸ List.mem_cons_self)
    -- one of the first two holders stands at another place
    have hthird : ∃ q ∈ c.holders r key, q.1 ≠ p.1 := by
      by_cases heq : first.1 = p.1
      · exact ⟨second, by simp [hholders], fun h' => hne (heq.trans h'.symm)⟩
      · exact ⟨first, by simp [hholders], heq⟩
    obtain ⟨q, hq, hneq⟩ := hthird
    obtain ⟨hloc, hkey'⟩ := Chain.mem_holders_iff.1 hq
    exact h ⟨hkey, q, hloc, hneq, hkey'⟩

theorem clash?_ofChain (r : KeyRules) (c : Chain) :
    (ofChain r c).clash? = c.located.findSome? fun p =>
      (r.keys p.2).findSome? ((ofChain r c).clashOn? ⟨p.1, p.2.display, r.keys p.2⟩) := by
  unfold clash?
  exact List.findSome?_map

/-- A flag has no clash just when it shares none of its keys. -/
theorem findSome?_clashOn?_eq_none_iff {entry : KeyEntry} (hp : p ∈ c.located) :
    (r.keys p.2).findSome? ((ofChain r c).clashOn? entry) = none ↔
      ∀ k, ¬ c.SharesKey r p k := by
  rw [List.findSome?_eq_none_iff]
  constructor
  · intro h k hk
    exact (clashOn?_eq_none_iff hp hk.1).1 (h k hk.1) hk
  · intro h k hk
    exact (clashOn?_eq_none_iff hp hk).2 (h k)

/-- The index has no clash just when no key is derived by two flags. -/
theorem clash?_eq_none_iff : (ofChain r c).clash? = none ↔ c.KeysApart r := by
  rw [clash?_ofChain, List.findSome?_eq_none_iff, Chain.keysApart_iff]
  exact forall₂_congr fun p hp => findSome?_clashOn?_eq_none_iff hp

end KeyIndex

end LayeredFlags
