import LayeredFlags.Proofs.Keys.Ownership
import LayeredFlags.Proofs.Resolution.Configuration
import LayeredFlags.Proofs.Resolution.Environment
import LayeredFlags.Proofs.Text.Upper
import LayeredFlags.Resolution.Parse

/-!
# The way back from keys

A name is looked up among the keys with its separators as underscores.  The name in a key has them
as underscores already, but the stem before it is taken as it is.  So a key leads back to its flag
just when the stem has no separators; with a separator in the stem no name leads to any flag, though
the environment still knows the key.
-/

namespace LayeredFlags

/-! ## Separators -/

/-- A character that stands in keys as an underscore. -/
def isSeparator (c : Char) : Bool :=
  c == '-' || c == '.' || c == '/'

/-- No separator stands in the text. -/
def Unseparated (s : String) : Prop :=
  ∀ c ∈ s.toList, isSeparator c = false

instance (s : String) : Decidable (Unseparated s) :=
  List.decidableBAll (fun c => isSeparator c = false) s.toList

theorem isSeparator_iff {c : Char} : isSeparator c = true ↔ c = '-' ∨ c = '.' ∨ c = '/' := by
  simp [isSeparator, or_assoc]

theorem unseparated_keyBody (name : String) : Unseparated (keyBody name) := by
  intro c hc
  rw [keyBody, String.toList_ofList] at hc
  obtain ⟨d, -, rfl⟩ := List.mem_map.1 hc
  by_cases hd : isSeparator d = true
  · exact (congrArg isSeparator (if_pos hd)).trans rfl
  · exact (congrArg isSeparator (if_neg hd)).trans (by simpa using hd)

/-- A text without separators is looked up as it is. -/
theorem keyBody_of_unseparated {s : String} (h : Unseparated s) : keyBody s = s := by
  have hdrop : Text.dropDashes s.toList = s.toList := by
    unfold Text.dropDashes
    cases hs : s.toList with
    | nil => rfl
    | cons c cs =>
      refine List.dropWhile_cons_of_neg fun hc => ?_
      have := h c (by rw [hs]; exact List.mem_cons_self ..)
      rw [beq_iff_eq.1 hc] at this
      cases this
  have hmap : Flag.underscored s.toList = s.toList := by
    refine (List.map_congr_left fun c hc => ?_).trans (List.map_id _)
    exact if_neg fun hsep => Bool.false_ne_true ((h c hc).symm.trans hsep)
  rw [keyBody, hdrop, hmap, String.ofList_toList]

/-! ## Case -/

namespace KeyRules

variable {r : KeyRules} {s : String}

theorem fold_fold (r : KeyRules) (s : String) : r.fold (r.fold s) = r.fold s := by
  unfold fold
  split_ifs
  · rfl
  · exact Text.upper_upper s

theorem separatorCodes_upperCodes :
    Text.maskAll [[0x2D, 0x2E, 0x2F]] &&& Text.maskAll Text.upperCodes = 0 := by
  decide +kernel

theorem mem_fold_iff {c : Char} (hc : isSeparator c = true) :
    c ∈ (r.fold s).toList ↔ c ∈ s.toList := by
  unfold fold
  split_ifs
  · rfl
  · have hcode : c.toNat ∈ [0x2D, 0x2E, 0x2F] := by
      rcases isSeparator_iff.1 hc with rfl | rfl | rfl <;> decide
    have hplain : Text.upperChar c = [c] := by
      rcases isSeparator_iff.1 hc with rfl | rfl | rfl <;> rfl
    have hnull : c ≠ '\x00' := by
      rintro rfl
      cases hc
    refine ⟨Text.mem_of_mem_upper (fun ns hns => ?_) hnull, Text.mem_upper_of_mem hplain⟩
    exact Text.not_mem_of_maskAll separatorCodes_upperCodes (List.mem_singleton_self _) hcode hns

/-- A change of case neither brings nor takes a separator. -/
theorem unseparated_fold_iff : Unseparated (r.fold s) ↔ Unseparated s := by
  have key (t : String) : Unseparated t ↔ ∀ c, isSeparator c = true → c ∉ t.toList := by
    unfold Unseparated
    refine forall_congr' fun c => ?_
    rw [← Bool.not_eq_true]
    exact ⟨fun h hc hmem => h hmem hc, fun h hmem hc => h hc hmem⟩
  rw [key, key]
  exact forall₂_congr fun c hc => not_congr (mem_fold_iff hc)

/-- Nothing before the name in a key is a separator. -/
def PlainStem (r : KeyRules) : Prop :=
  Unseparated r.lead

instance (r : KeyRules) : Decidable r.PlainStem :=
  inferInstanceAs (Decidable (Unseparated r.lead))

theorem unseparated_key_iff (name : String) : Unseparated (r.key name) ↔ r.PlainStem := by
  rw [key, unseparated_fold_iff]
  unfold PlainStem Unseparated
  simp only [String.toList_append, List.mem_append]
  refine ⟨fun h c hc => h c (.inl hc), fun h c hc => hc.elim (h c) ?_⟩
  exact unseparated_keyBody name c

/-- Under a stem without separators a key is looked up as it is. -/
theorem fold_keyBody_key (hr : r.PlainStem) (name : String) :
    r.fold (keyBody (r.key name)) = r.key name := by
  rw [keyBody_of_unseparated ((unseparated_key_iff name).2 hr), key, fold_fold]

end KeyRules

namespace KeyIndex

variable {r : KeyRules} {c : Chain} {id : FlagId} {f : Flag} {key : String}

/-! ## Looking up keys -/

theorem reverse_of_plainStem (h : c.OwnsKey r id f key) (hr : r.PlainStem) :
    (ofChain r c).reverse key = .ok (some id) := by
  obtain ⟨name, -, rfl⟩ := KeyRules.mem_keys_iff.1 h.derived
  have hlookup : (ofChain r c).rules.fold (keyBody (r.key name)) = r.key name :=
    KeyRules.fold_keyBody_key hr name
  simp only [reverse, hlookup, owners_eq_singleton h]

/-- With a separator in the stem no name leads to a flag. -/
theorem reverse_of_not_plainStem (hr : ¬ r.PlainStem) (c : Chain) (name : String) :
    (ofChain r c).reverse name = .ok none := by
  -- the text that is looked up has no separator left, but every key has that of the stem
  have hnone : (ofChain r c).owners ((ofChain r c).rules.fold (keyBody name)) = [] := by
    refine List.filter_eq_nil_iff.2 fun entry hentry hkey => hr ?_
    obtain ⟨id, f, -, rfl⟩ := mem_entries_ofChain.1 hentry
    rw [List.contains_iff_mem] at hkey
    obtain ⟨name', -, hname'⟩ := KeyRules.mem_keys_iff.1 hkey
    rw [← KeyRules.unseparated_key_iff name', hname']
    exact KeyRules.unseparated_fold_iff.2 (unseparated_keyBody name)
  simp only [reverse, hnone]

theorem reverse_eq_some_iff (h : c.OwnsKey r id f key) :
    (ofChain r c).reverse key = .ok (some id) ↔ r.PlainStem := by
  refine ⟨fun hkey => ?_, reverse_of_plainStem h⟩
  by_contra hr
  rw [reverse_of_not_plainStem hr] at hkey
  cases hkey

end KeyIndex

namespace Chain

variable {c : Chain} {r : KeyRules} {id : FlagId} {f : Flag} {key : String}

/-! ## Keys in both tiers -/

/-- What a key does for a flag that alone derives it. -/
structure KeyServes (c : Chain) (r : KeyRules) (id : FlagId) (f : Flag) (key : String) : Prop where
  /-- A variable under the key is taken by the flag, whatever the stem is. -/
  variable_taken : f.isSet = false → ∀ env text, BindsOnly env key text → text ≠ "" →
    c.envBindings (.ofChain r c) env = .ok [⟨id, key, text⟩]
  /-- The key leads back to the flag just when the stem has no separator. -/
  reverse_iff : (KeyIndex.ofChain r c).reverse key = .ok (some id) ↔ r.PlainStem
  /-- A pair of the configuration under the key, unless the key is also a name, is then assigned to
  the flag. -/
  pair_assigned : r.PlainStem → c.locateName key = none → ∀ o path provided raw, id ∉ provided →
    receive o (.ofChain r c) path provided (key, raw) c = c.assign id raw (.config path)
  /-- With a separator in the stem such a pair has no flag. -/
  pair_lost : ¬ r.PlainStem → c.locateName key = none → ∀ o path provided raw,
    receive o (.ofChain r c) path provided (key, raw) c =
      ⟨c, if o.ignoreUndefined then none else some (.unknownFlag key)⟩

/-- A key that one flag derives and no other serves that flag in the environment, and in the
configuration unless its stem has a separator. -/
theorem keyServes_of_ownsKey (h : c.OwnsKey r id f key) : c.KeyServes r id f key := by
  refine ⟨fun hunset env text henv hne => envBindings_of_ownsKey h hunset henv hne,
    KeyIndex.reverse_eq_some_iff h, fun hr hname o path provided raw hid => ?_,
    fun hr hname o path provided raw => ?_⟩
  · refine receive_of_resolveName ?_ hid o raw
    rw [resolveName, hname, KeyIndex.reverse_of_plainStem h hr]
  · have hresolve : c.resolveName (.ofChain r c) key = .ok none := by
      rw [resolveName, hname, KeyIndex.reverse_of_not_plainStem hr]
    simp only [receive, hresolve]

/-- A flag that nothing was assigned to. -/
def levelFlag : Flag :=
  .ofDecl { names := { long := some "level" }, value := .ofDefault .string (.string "") }

/-- A set of that flag alone. -/
def levelChain : Chain :=
  { own := { name := "app", flags := [levelFlag] } }

/-- A variable under a key. -/
def variableOptions (r : KeyRules) (key text : String) : ParseOptions :=
  { envEnabled := true
    rules := r
    env := fun k => if k = key then some (Text.Utf8.encode text.toList) else none }

/-- A pair under a key. -/
def pairOptions (r : KeyRules) (key text : String) : ParseOptions :=
  { rules := r
    configFile := some (.path "app.conf")
    openFile := fun _ => .opened (.ofString "")
    decoder := fun _ => ⟨[(key, text)], none⟩ }

theorem keyServes_of_ownsKey_sample :
    let r : KeyRules := { stem := some "app" }
    levelChain.OwnsKey r ⟨0, 0⟩ levelFlag "APP_LEVEL" ∧ r.PlainStem ∧
      levelChain.KeyServes r ⟨0, 0⟩ levelFlag "APP_LEVEL" ∧
      ∀ o ∈ [variableOptions r "APP_LEVEL" "debug", pairOptions r "APP_LEVEL" "debug"],
        (levelChain.parse o []).state.valueOf? "level" = some "debug" := by
  intro r
  have hapart : levelChain.KeysApart r := KeyIndex.clash?_eq_none_iff.1 (by decide +kernel)
  have hown : levelChain.OwnsKey r ⟨0, 0⟩ levelFlag "APP_LEVEL" :=
    hapart ⟨0, 0⟩ levelFlag "APP_LEVEL" rfl (by decide +kernel)
  exact ⟨hown, by decide +kernel, keyServes_of_ownsKey hown, by decide +kernel⟩

/-- Under a stem with a dash a variable reaches its flag, but a pair of the same key does not. -/
theorem pair_lost_of_dashed_stem :
    let r : KeyRules := { stem := some "my-app" }
    levelChain.OwnsKey r ⟨0, 0⟩ levelFlag "MY-APP_LEVEL" ∧
      levelChain.locateName "MY-APP_LEVEL" = none ∧
      (KeyIndex.ofChain r levelChain).reverse "MY-APP_LEVEL" = .ok none ∧
      (levelChain.parse (variableOptions r "MY-APP_LEVEL" "debug") []).state.valueOf? "level" =
        some "debug" ∧
      (levelChain.parse (pairOptions r "MY-APP_LEVEL" "debug") []).failure =
        some (.unknownFlag "MY-APP_LEVEL") := by
  intro r
  have hapart : levelChain.KeysApart r := KeyIndex.clash?_eq_none_iff.1 (by decide +kernel)
  have hown : levelChain.OwnsKey r ⟨0, 0⟩ levelFlag "MY-APP_LEVEL" :=
    hapart ⟨0, 0⟩ levelFlag "MY-APP_LEVEL" rfl (by decide +kernel)
  exact ⟨hown, by decide +kernel, by decide +kernel, by decide +kernel, by decide +kernel⟩

end Chain

end LayeredFlags
