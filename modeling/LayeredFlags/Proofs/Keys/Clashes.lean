import LayeredFlags.Proofs.Keys.Ownership

/-!
# The first clash of keys

The check of an index fails just when two flags of the chain share a key, hidden flags of farther
sets included.  What it reports is fixed by the walk over the chain, nearest set first: the first
flag that shares any key, the first of its keys that is shared, and the next flag of the walk that
derives this key.
-/

namespace LayeredFlags

namespace Chain

variable {c : Chain} {r : KeyRules} {p : FlagId × Flag} {key : String}

/-- The first shared key on a walk over the chain, and the first two flags that derive it. -/
structure FirstClash (c : Chain) (r : KeyRules) (key : String) (first second : FlagId × Flag) :
    Prop where
  walk : ∃ before between after, c.located = before ++ first :: (between ++ second :: after) ∧
    (∀ p ∈ before, ∀ k, ¬ c.SharesKey r p k) ∧ ∀ p ∈ between, key ∉ r.keys p.2
  keys : ∃ earlier later, r.keys first.2 = earlier ++ key :: later ∧
    ∀ k ∈ earlier, ¬ c.SharesKey r first k
  derived : key ∈ r.keys second.2

/-! ## The flags that derive a key -/

/-- Equal keys of one flag are one. -/
theorem nodup_keys (r : KeyRules) (f : Flag) : (r.keys f).Nodup := by
  unfold KeyRules.keys
  dsimp only
  generalize f.names.long.map r.key = long
  generalize (if r.shortNames then f.names.short.map fun c => r.key (String.singleton c)
    else none) = short
  cases long <;> cases short <;> grind

/-- The places that a walk puts under a key when every flag puts its place under each of its keys,
one after another. -/
def pushes (c : Chain) (r : KeyRules) (key : String) : List FlagId :=
  c.located.flatMap fun p => ((r.keys p.2).filter (· == key)).map fun _ => p.1

/-- A table that is filled on the walk has every holder of a key once, in the order of the walk. -/
theorem pushes_eq_map_holders (c : Chain) (r : KeyRules) (key : String) :
    c.pushes r key = (c.holders r key).map Prod.fst := by
  unfold pushes holders
  induction c.located with
  | nil => rfl
  | cons p rest ih =>
    rw [List.flatMap_cons, ih, List.filter_beq, List.filter_cons]
    by_cases hkey : key ∈ r.keys p.2
    · rw [List.count_eq_one_of_mem (nodup_keys r p.2) hkey,
        if_pos (List.contains_iff_mem.2 hkey)]
      rfl
    · rw [List.count_eq_zero_of_not_mem hkey, if_neg (mt List.contains_iff_mem.1 hkey)]
      rfl

/-- A flag with no holder before it is the first holder. -/
theorem holders_eq_cons {before rest : List (FlagId × Flag)}
    (hwalk : c.located = before ++ p :: rest) (hbefore : ∀ q ∈ before, key ∉ r.keys q.2)
    (hp : key ∈ r.keys p.2) :
    c.holders r key = p :: rest.filter fun q => (r.keys q.2).contains key := by
  have hnone : before.filter (fun q => (r.keys q.2).contains key) = [] := by
    rw [List.filter_eq_nil_iff]
    intro q hq hkey
    exact hbefore q hq (List.contains_iff_mem.1 hkey)
  have hkey : (r.keys p.2).contains key = true := List.contains_iff_mem.2 hp
  rw [holders, hwalk, List.filter_append, hnone, List.nil_append]
  exact List.filter_cons_of_pos hkey

/-- Flags that the walk meets before one that derives the key do not derive it, unless they share
it. -/
theorem not_mem_keys_of_before {before rest : List (FlagId × Flag)}
    (hwalk : c.located = before ++ p :: rest) (hp : key ∈ r.keys p.2)
    (hbefore : ∀ q ∈ before, ¬ c.SharesKey r q key) : ∀ q ∈ before, key ∉ r.keys q.2 := by
  intro q hq hkey
  have hnodup := nodup_located c
  rw [hwalk, List.map_append, List.map_cons, List.nodup_append] at hnodup
  have hne : q.1 ≠ p.1 := hnodup.2.2 q.1 (List.mem_map_of_mem hq) p.1 List.mem_cons_self
  exact hbefore q hq ⟨hkey, p, by simp [hwalk], hne.symm, hp⟩

end Chain

namespace KeyIndex

variable {r : KeyRules} {c : Chain} {p : FlagId × Flag} {key : String} {e : FlagError}

/-- Where no flag before it on the walk shares the key, a flag clashes with the next one behind it
that derives the key. -/
theorem clashOn?_of_first {entry : KeyEntry} {before rest : List (FlagId × Flag)}
    (hwalk : c.located = before ++ p :: rest) (hkey : key ∈ r.keys p.2)
    (hbefore : ∀ q ∈ before, ¬ c.SharesKey r q key) :
    (ofChain r c).clashOn? entry key = some e ↔
      ∃ between second after, rest = between ++ second :: after ∧
        (∀ q ∈ between, key ∉ r.keys q.2) ∧ key ∈ r.keys second.2 ∧
          e = .duplicateKey key entry.flag second.2.display := by
  have hnone := Chain.not_mem_keys_of_before hwalk hkey hbefore
  have hholders := Chain.holders_eq_cons hwalk hnone hkey
  rw [clashOn?_eq_some_iff, hholders]
  constructor
  · rintro ⟨first, second, tail, heq, rfl⟩
    rw [List.cons.injEq, List.filter_eq_cons_iff] at heq
    obtain ⟨-, between, after, rfl, hbetween, hsecond, -⟩ := heq
    refine ⟨between, second, after, rfl, fun q hq hmem => ?_, List.contains_iff_mem.1 hsecond, rfl⟩
    exact hbetween q hq (List.contains_iff_mem.2 hmem)
  · rintro ⟨between, second, after, rfl, hbetween, hsecond, rfl⟩
    refine ⟨p, second, after.filter fun q => (r.keys q.2).contains key, ?_, rfl⟩
    rw [List.cons.injEq, List.filter_eq_cons_iff]
    refine ⟨rfl, between, after, rfl, fun q hq hmem => ?_, List.contains_iff_mem.2 hsecond, rfl⟩
    exact hbetween q hq (List.contains_iff_mem.1 hmem)

/-- The first flag of the walk that shares a key clashes on the first key it shares. -/
theorem findSome?_clashOn?_of_first {entry : KeyEntry} {before rest : List (FlagId × Flag)}
    (hwalk : c.located = before ++ p :: rest) (hbefore : ∀ q ∈ before, ∀ k, ¬ c.SharesKey r q k) :
    (r.keys p.2).findSome? ((ofChain r c).clashOn? entry) = some e ↔
      ∃ key second, (∃ earlier later, r.keys p.2 = earlier ++ key :: later ∧
          ∀ k ∈ earlier, ¬ c.SharesKey r p k) ∧
        (∃ between after, rest = between ++ second :: after ∧ ∀ q ∈ between, key ∉ r.keys q.2) ∧
        key ∈ r.keys second.2 ∧ e = .duplicateKey key entry.flag second.2.display := by
  have hp : p ∈ c.located := by simp [hwalk]
  rw [List.findSome?_eq_some_iff]
  constructor
  · rintro ⟨earlier, key, later, hkeys, hon, hearlier⟩
    obtain ⟨between, second, after, hrest, hbetween, hsecond, he⟩ :=
      (clashOn?_of_first hwalk (by simp [hkeys]) fun q hq => hbefore q hq key).1 hon
    refine ⟨key, second, ⟨earlier, later, hkeys, fun k hk => ?_⟩, ⟨between, after, hrest, hbetween⟩,
      hsecond, he⟩
    exact (clashOn?_eq_none_iff hp (by simp [hkeys, hk])).1 (hearlier k hk)
  · rintro ⟨key, second, ⟨earlier, later, hkeys, hearlier⟩, ⟨between, after, hrest, hbetween⟩,
      hsecond, he⟩
    refine ⟨earlier, key, later, hkeys, ?_, fun k hk => ?_⟩
    · exact (clashOn?_of_first hwalk (by simp [hkeys]) fun q hq => hbefore q hq key).2
        ⟨between, second, after, hrest, hbetween, hsecond, he⟩
    · exact (clashOn?_eq_none_iff hp (by simp [hkeys, hk])).2 (hearlier k hk)

theorem map_id_owners (r : KeyRules) (c : Chain) (key : String) :
    ((ofChain r c).owners key).map KeyEntry.id = c.pushes r key := by
  rw [owners_ofChain, List.map_map, Chain.pushes_eq_map_holders]
  rfl

/-- The index has under each key the places that the walk puts there.  Its check passes just when no
flag shares a key, and what it reports is the first clash. -/
theorem clash?_iff_firstClash (r : KeyRules) (c : Chain) :
    (∀ key, ((ofChain r c).owners key).map KeyEntry.id = c.pushes r key) ∧
      ((ofChain r c).clash? = none ↔ ∀ p ∈ c.located, ∀ key, ¬ c.SharesKey r p key) ∧
      ∀ e, (ofChain r c).clash? = some e ↔
        ∃ key first second, c.FirstClash r key first second ∧
          e = .duplicateKey key first.2.display second.2.display := by
  refine ⟨map_id_owners r c, clash?_eq_none_iff.trans Chain.keysApart_iff, fun e => ?_⟩
  rw [clash?_ofChain, List.findSome?_eq_some_iff]
  constructor
  · rintro ⟨before, first, rest, hwalk, hclash, hnone⟩
    have hunshared : ∀ p ∈ before, ∀ k, ¬ c.SharesKey r p k := fun p hp =>
      (findSome?_clashOn?_eq_none_iff (by simp [hwalk, hp])).1 (hnone p hp)
    obtain ⟨key, second, hkeys, ⟨between, after, rfl, hbetween⟩, hsecond, he⟩ :=
      (findSome?_clashOn?_of_first hwalk hunshared).1 hclash
    exact ⟨key, first, second,
      ⟨⟨before, between, after, hwalk, hunshared, hbetween⟩, hkeys, hsecond⟩, he⟩
  · rintro ⟨key, first, second,
      ⟨⟨before, between, after, hwalk, hunshared, hbetween⟩, hkeys, hsecond⟩, he⟩
    refine ⟨before, first, between ++ second :: after, hwalk, ?_, fun p hp => ?_⟩
    · exact (findSome?_clashOn?_of_first hwalk hunshared).2
        ⟨key, second, hkeys, ⟨between, after, rfl, hbetween⟩, hsecond, he⟩
    · exact (findSome?_clashOn?_eq_none_iff (by simp [hwalk, hp])).2 (hunshared p hp)

-- one flag with one key from both names, the same flag again in an ancestor, and another spelling
example :
    let verbose : Flag :=
      .ofDecl { names := { short := some 'v', long := some "v" }, value := .ofBool false }
    let hidden : Flag :=
      .ofDecl { names := { long := some "V" }, value := .ofBool false }
    let own : FlagSet := { name := "app", flags := [verbose] }
    let shared : FlagSet := { name := "base", flags := [hidden] }
    let rules : KeyRules := { shortNames := true }
    (ofChain rules { own }).clash? = none ∧
      (ofChain rules { own, ancestors := [own] }).clash? = some (.duplicateKey "V" "--v" "--v") ∧
      (ofChain rules { own, ancestors := [shared] }).clash? =
        some (.duplicateKey "V" "--v" "--V") := by
  decide +kernel

end KeyIndex

end LayeredFlags
