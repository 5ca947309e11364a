import LayeredFlags.Json.Decoder
import LayeredFlags.Proofs.Config.Flattening
import LayeredFlags.Proofs.Config.Lines
import LayeredFlags.Proofs.Json.Writing
import LayeredFlags.Proofs.Text.Cutting

/-!
# Decoding what was written

Decoding a JSON text undoes writing it: whatever blanks stand between the tokens and however the
strings are spelled, the pairs are those of the tree that was written.
-/

namespace LayeredFlags.Json

open Content

/-! ## The entries of an object -/

theorem putEntry_of_not_mem {key : String} {d : Document} {entries : List (String × Document)}
    (h : key ∉ entries.map Prod.fst) : putEntry key d entries = entries ++ [(key, d)] := by
  induction entries with
  | nil => rfl
  | cons e entries ih =>
    rw [List.map_cons, List.mem_cons, not_or] at h
    rw [putEntry, if_neg (Ne.symm h.1), ih h.2, List.cons_append]

/-- Members with different keys are the entries as they are. -/
theorem collectEntries_of_nodup {members : List (String × Document)}
    (h : (members.map Prod.fst).Nodup) : collectEntries members = members := by
  induction members using List.reverseRecOn with
  | nil => rfl
  | append_singleton members m ih =>
    rw [List.map_append, List.nodup_append] at h
    have hkey : m.1 ∉ members.map Prod.fst := fun hm => h.2.2 _ hm _ (List.mem_singleton_self _) rfl
    have hmembers : collectEntries members = members := ih h.1
    rw [collectEntries] at hmembers ⊢
    rw [List.foldl_append, hmembers]
    exact putEntry_of_not_mem hkey

theorem map_fst_memberDocuments (members : List (String × Content)) :
    (memberDocuments members).map Prod.fst = members.map Prod.fst := by
  induction members with
  | nil => rfl
  | cons m members ih => simp [memberDocuments, ih]

/-! ## What a tree says -/

/-- The tree has the document of the content, if its collections may be entered. -/
def Tree.Says (t : Tree) (v : Content) : Prop :=
  ∀ depth, v.depth ≤ depth → t.document? depth = some v.document

/-- The trees have the documents of the elements. -/
def ItemsSay (ts : List Tree) (items : List Content) : Prop :=
  ∀ depth, itemsDepth items ≤ depth → itemDocuments? depth ts = some (itemDocuments items)

/-- The trees have the documents of the members, under the same keys. -/
def MembersSay (ts : List (List StringPiece × Tree)) (members : List (String × Content)) : Prop :=
  ∀ depth, membersDepth members ≤ depth →
    memberDocuments? depth ts = some (memberDocuments members)

theorem itemsSay_nil : ItemsSay [] [] := fun _ _ => by
  rw [itemDocuments?, itemDocuments]

theorem ItemsSay.cons {t : Tree} {ts : List Tree} {v : Content} {items : List Content}
    (ht : t.Says v) (hts : ItemsSay ts items) : ItemsSay (t :: ts) (v :: items) := by
  intro depth hdepth
  rw [itemsDepth, max_le_iff] at hdepth
  rw [itemDocuments?, ht depth hdepth.1, hts depth hdepth.2, itemDocuments]

theorem membersSay_nil : MembersSay [] [] := fun _ _ => by
  rw [memberDocuments?, memberDocuments]

theorem MembersSay.cons {key : String} {pieces : List StringPiece} {t : Tree} {v : Content}
    {ts : List (List StringPiece × Tree)} {members : List (String × Content)}
    (hkey : stringText? pieces = some key.toList) (ht : t.Says v) (hts : MembersSay ts members) :
    MembersSay ((pieces, t) :: ts) ((key, v) :: members) := by
  intro depth hdepth
  rw [membersDepth, max_le_iff] at hdepth
  rw [memberDocuments?, hkey, ht depth hdepth.1, hts depth hdepth.2, memberDocuments]
  simp

theorem ItemsSay.array {ts : List Tree} {items : List Content} (h : ItemsSay ts items) :
    (Tree.array ts).Says (.array items) := by
  intro depth hdepth
  rw [Content.depth] at hdepth
  cases depth with
  | zero => omega
  | succ depth =>
    rw [Tree.document?, h depth (by omega), document]
    rfl

theorem MembersSay.object {ts : List (List StringPiece × Tree)} {members : List (String × Content)}
    (hkeys : (members.map Prod.fst).Nodup) (h : MembersSay ts members) :
    (Tree.object ts).Says (.object members) := by
  intro depth hdepth
  rw [Content.depth] at hdepth
  cases depth with
  | zero => omega
  | succ depth =>
    have hentries : collectEntries (memberDocuments members) = memberDocuments members :=
      collectEntries_of_nodup (by rwa [map_fst_memberDocuments])
    rw [Tree.document?, h depth (by omega), Option.map_some, hentries, document]

/-! ## Reading values -/

-- a reader of elements or members first reads a value from the text it is given, so it needs one
-- step more; a collection has taken its bracket before it calls them, which is worth two steps

/-- The value is read from the front of any text of its tokens. -/
def ReadsValue (v : Content) : Prop :=
  ∀ (steps : Nat) {ts : List Token} {s : List Char}, 2 * s.length < steps →
    Written (v.tokens ++ ts) s → ∃ t rest, value? steps s = some (t, rest) ∧ t.Says v ∧
      Written ts rest ∧ rest.length < s.length

/-- The elements are read up to the end of their array. -/
def ReadsItems (items : List Content) : Prop :=
  ∀ (steps : Nat) {ts : List Token} {s : List Char}, 2 * s.length + 1 < steps →
    Written ([.comma].intercalate (itemTokens items) ++ .endArray :: ts) s →
      ∃ trees rest, items? steps s = some (trees, rest) ∧ ItemsSay trees items ∧
        Written ts rest ∧ rest.length < s.length

/-- The members are read up to the end of their object. -/
def ReadsMembers (members : List (String × Content)) : Prop :=
  ∀ (steps : Nat) {ts : List Token} {s : List Char}, 2 * s.length + 1 < steps →
    Written ([.comma].intercalate (memberTokens members) ++ .endObject :: ts) s →
      ∃ trees rest, members? steps s = some (trees, rest) ∧ MembersSay trees members ∧
        Written ts rest ∧ rest.length < s.length

/-- A value of one token. -/
theorem readsValue_of_token {v : Content} {token : Token} (htoken : v.tokens = [token])
    (hread : ∀ {text : List Char}, token.Spelled text → ∃ t : Tree, t.Says v ∧
      ∀ {steps : Nat} {rest s : List Char}, skipBlanks s = text ++ rest →
        value? (steps + 1) s = some (t, rest)) : ReadsValue v := by
  intro steps ts s hsteps h
  obtain ⟨steps, rfl⟩ := Nat.exists_eq_add_of_lt hsteps
  rw [htoken] at h
  obtain ⟨text, rest, htext, hrest, hskip, hlength⟩ := h.first
  obtain ⟨t, ht, hvalue⟩ := hread htext
  exact ⟨t, rest, hvalue hskip, ht, hrest, hlength⟩

theorem readsValue_null : ReadsValue .null := by
  refine readsValue_of_token rfl fun htext => ?_
  cases htext
  refine ⟨.null, fun depth _ => ?_, fun hskip => ?_⟩
  · rw [Tree.document?, document]
  · rw [value?, hskip]
    rfl

theorem readsValue_bool (b : Bool) : ReadsValue (.bool b) := by
  refine readsValue_of_token rfl fun htext => ?_
  cases htext
  refine ⟨.bool b, fun depth _ => ?_, fun hskip => ?_⟩
  · rw [Tree.document?, document]
  · rw [value?, hskip]
    cases b <;> rfl

theorem readsValue_string (string : String) : ReadsValue (.string string) := by
  refine readsValue_of_token rfl fun htext => ?_
  cases htext with
  | string htext =>
    obtain ⟨body, rfl, pieces, hpieces, hread⟩ := htext.read
    refine ⟨.string pieces, fun depth _ => ?_, fun {steps rest s} hskip => ?_⟩
    · rw [Tree.document?, hpieces, document]
      simp
    · have hleaf : value? (steps + 1) s =
          (stringBody? (body ++ rest)).map fun p => (.string p.1, p.2) := by
        rw [value?, hskip]
        rfl
      rw [hleaf, hread]
      rfl

/-! ## Reading the elements of an array -/

theorem readsItems_singleton {v : Content} (hv : ReadsValue v) : ReadsItems [v] := by
  intro steps ts s hsteps h
  obtain ⟨steps, rfl⟩ := Nat.exists_eq_add_of_lt hsteps
  simp only [itemTokens, List.intercalate_singleton] at h
  obtain ⟨t, rest, hvalue, ht, hrest, hlength⟩ :=
    hv (2 * s.length + 1 + steps) (by omega) h
  obtain ⟨text, rest', htext, hrest', hskip, hlength'⟩ := hrest.first
  cases htext
  refine ⟨[t], rest', ?_, itemsSay_nil.cons ht, hrest', by omega⟩
  rw [items?, hvalue]
  simp only [hskip]
  rfl

theorem readsItems_cons {v w : Content} {items : List Content} (hv : ReadsValue v)
    (hitems : ReadsItems (w :: items)) : ReadsItems (v :: w :: items) := by
  intro steps ts s hsteps h
  obtain ⟨steps, rfl⟩ := Nat.exists_eq_add_of_lt hsteps
  rw [itemTokens, itemTokens, List.intercalate_cons_cons, List.append_assoc, List.append_assoc] at h
  obtain ⟨t, rest, hvalue, ht, hrest, hlength⟩ :=
    hv (2 * s.length + 1 + steps) (by omega) h
  obtain ⟨text, rest', htext, hrest', hskip, hlength'⟩ := hrest.first
  cases htext
  obtain ⟨trees, rest'', htrees, hsay, hrest'', hlength''⟩ :=
    hitems (2 * s.length + 1 + steps) (by omega) hrest'
  refine ⟨t :: trees, rest'', ?_, hsay.cons ht, hrest'', by omega⟩
  rw [items?, hvalue]
  simp only [hskip]
  change (items? _ rest').map _ = _
  rw [htrees]
  rfl

/-- No array with elements begins with its end. -/
theorem exists_itemTokens_cons (v : Content) (items : List Content) :
    ∃ token ts, [.comma].intercalate (itemTokens (v :: items)) = token :: ts ∧
      token ≠ .endArray := by
  obtain ⟨token, ts, htokens, hne⟩ :
      ∃ token ts, v.tokens = token :: ts ∧ token ≠ .endArray := by
    cases v <;> exact ⟨_, _, by rw [tokens], by simp⟩
  cases items with
  | nil => exact ⟨token, ts, by simp [itemTokens, htokens], hne⟩
  | cons w items =>
    refine ⟨token, ts ++ ([.comma] ++ [.comma].intercalate (itemTokens (w :: items))), ?_, hne⟩
    rw [itemTokens, itemTokens, List.intercalate_cons_cons, htokens]
    simp

theorem value?_of_array {steps : Nat} {s rest : List Char} (hs : skipBlanks s = '[' :: rest)
    (hrest : ∀ u, skipBlanks rest ≠ ']' :: u) :
    value? (steps + 1) s = (items? steps (skipBlanks rest)).map fun p => (.array p.1, p.2) := by
  simp only [value?, hs]

theorem readsValue_array {items : List Content} (hitems : items ≠ [] → ReadsItems items) :
    ReadsValue (.array items) := by
  intro steps ts s hsteps h
  obtain ⟨steps, rfl⟩ := Nat.exists_eq_add_of_lt hsteps
  rw [tokens, List.cons_append, List.append_assoc] at h
  obtain ⟨text, rest, htext, hrest, hskip, hlength⟩ := h.first
  cases htext
  cases items with
  | nil =>
    obtain ⟨text, rest', htext, hrest', hskip', hlength'⟩ := hrest.first
    cases htext
    refine ⟨.array [], rest', ?_, itemsSay_nil.array, hrest', by omega⟩
    rw [value?, hskip]
    simp [hskip']
  | cons v items =>
    have hle : (skipBlanks rest).length ≤ rest.length := List.length_dropWhile_le _ _
    have hnotEnd : ∀ u, skipBlanks rest ≠ ']' :: u := by
      obtain ⟨token, us, htokens, hne⟩ := exists_itemTokens_cons v items
      rw [htokens] at hrest
      exact fun u hu => hne (hrest.ends.1 u hu)
    obtain ⟨trees, rest', htrees, hsay, hrest', hlength'⟩ :=
      hitems (by simp) (2 * s.length + steps) (by omega) hrest.skipBlanks
    refine ⟨.array trees, rest', ?_, hsay.array, hrest', by omega⟩
    have hopen : skipBlanks s = '[' :: rest := hskip
    rw [value?_of_array hopen hnotEnd, htrees]
    rfl

/-! ## Reading the members of an object -/

/-- A member is read up to the token behind it, which says whether another one follows. -/
theorem members?_of_member {key : String} {v : Content} (hv : ReadsValue v) (steps : Nat)
    {ts : List Token} {s : List Char} (hsteps : 2 * s.length < steps)
    (h : Written (.string key :: .colon :: (v.tokens ++ ts)) s) :
    ∃ pieces t rest, stringText? pieces = some key.toList ∧ t.Says v ∧ Written ts rest ∧
      rest.length < s.length ∧
      (∀ u, skipBlanks rest = '\x7d' :: u → members? (steps + 1) s = some ([(pieces, t)], u)) ∧
      ∀ u, skipBlanks rest = ',' :: u →
        members? (steps + 1) s = (members? steps u).map fun p => ((pieces, t) :: p.1, p.2) := by
  obtain ⟨text, rest, htext, hrest, hskip, hlength⟩ := h.first
  cases htext with
  | string htext =>
    obtain ⟨body, rfl, pieces, hpieces, hread⟩ := htext.read
    obtain ⟨text, rest', htext', hrest', hskip', hlength'⟩ := hrest.first
    cases htext'
    obtain ⟨t, rest'', hvalue, ht, hrest'', hlength''⟩ := hv steps (by omega) hrest'
    refine ⟨pieces, t, rest'', hpieces, ht, hrest'', by omega, fun u hu => ?_, fun u hu => ?_⟩
    · simp only [members?, hskip, List.cons_append, hread, hskip', List.nil_append, hvalue, hu]
    · simp only [members?, hskip, List.cons_append, hread, hskip', List.nil_append, hvalue, hu]

theorem readsMembers_singleton {key : String} {v : Content} (hv : ReadsValue v) :
    ReadsMembers [(key, v)] := by
  intro steps ts s hsteps h
  obtain ⟨steps, rfl⟩ := Nat.exists_eq_add_of_lt hsteps
  simp only [memberTokens, List.intercalate_singleton] at h
  obtain ⟨pieces, t, rest, hpieces, ht, hrest, hlength, hlast, -⟩ :=
    members?_of_member hv (2 * s.length + 1 + steps) (by omega) h
  obtain ⟨text, rest', htext, hrest', hskip, hlength'⟩ := hrest.first
  cases htext
  exact ⟨[(pieces, t)], rest', hlast rest' hskip, membersSay_nil.cons hpieces ht, hrest', by omega⟩

theorem readsMembers_cons {key : String} {v : Content} {m : String × Content}
    {members : List (String × Content)} (hv : ReadsValue v)
    (hmembers : ReadsMembers (m :: members)) : ReadsMembers ((key, v) :: m :: members) := by
  intro steps ts s hsteps h
  obtain ⟨steps, rfl⟩ := Nat.exists_eq_add_of_lt hsteps
  rw [memberTokens, memberTokens, List.intercalate_cons_cons, List.append_assoc, List.append_assoc]
    at h
  obtain ⟨pieces, t, rest, hpieces, ht, hrest, hlength, -, hmore⟩ :=
    members?_of_member hv (2 * s.length + 1 + steps) (by omega) h
  obtain ⟨text, rest', htext, hrest', hskip, hlength'⟩ := hrest.first
  cases htext
  obtain ⟨trees, rest'', htrees, hsay, hrest'', hlength''⟩ :=
    hmembers (2 * s.length + 1 + steps) (by omega) hrest'
  refine ⟨(pieces, t) :: trees, rest'', ?_, hsay.cons hpieces ht, hrest'', by omega⟩
  rw [hmore rest' hskip, htrees]
  rfl

theorem value?_of_object {steps : Nat} {s rest : List Char} (hs : skipBlanks s = '\x7b' :: rest)
    (hrest : ∀ u, skipBlanks rest ≠ '\x7d' :: u) :
    value? (steps + 1) s = (members? steps (skipBlanks rest)).map fun p => (.object p.1, p.2) := by
  simp only [value?, hs]

theorem readsValue_object {members : List (String × Content)}
    (hkeys : (members.map Prod.fst).Nodup) (hmembers : members ≠ [] → ReadsMembers members) :
    ReadsValue (.object members) := by
  intro steps ts s hsteps h
  obtain ⟨steps, rfl⟩ := Nat.exists_eq_add_of_lt hsteps
  rw [tokens, List.cons_append, List.append_assoc] at h
  obtain ⟨text, rest, htext, hrest, hskip, hlength⟩ := h.first
  cases htext
  cases members with
  | nil =>
    obtain ⟨text, rest', htext, hrest', hskip', hlength'⟩ := hrest.first
    cases htext
    refine ⟨.object [], rest', ?_, membersSay_nil.object hkeys, hrest', by omega⟩
    rw [value?, hskip]
    simp [hskip']
  | cons m members =>
    have hle : (skipBlanks rest).length ≤ rest.length := List.length_dropWhile_le _ _
    have hnotEnd : ∀ u, skipBlanks rest ≠ '\x7d' :: u := by
      intro u hu
      obtain ⟨ts', hfirst⟩ : ∃ ts', Written (.string m.1 :: ts') rest := by
        cases members with
        | nil => exact ⟨_, by simpa [memberTokens] using hrest⟩
        | cons m' members => exact ⟨_, by simpa [memberTokens] using hrest⟩
      cases hfirst.ends.2 u hu
    obtain ⟨trees, rest', htrees, hsay, hrest', hlength'⟩ :=
      hmembers (by simp) (2 * s.length + steps) (by omega) hrest.skipBlanks
    refine ⟨.object trees, rest', ?_, hsay.object hkeys, hrest', by omega⟩
    have hopen : skipBlanks s = '\x7b' :: rest := hskip
    rw [value?_of_object hopen hnotEnd, htrees]
    rfl

/-! ## Whole texts -/

mutual

/-- Every value is read from its tokens. -/
theorem readsValue : (v : Content) → v.KeysDistinct → ReadsValue v
  | .null, _ => readsValue_null
  | .bool b, _ => readsValue_bool b
  | .string s, _ => readsValue_string s
  | .array items, h => readsValue_array (readsItems items (by rwa [KeysDistinct] at h))
  | .object members, h => by
    rw [KeysDistinct] at h
    exact readsValue_object h.1 (readsMembers members h.2)

theorem readsItems : (items : List Content) → ItemKeysDistinct items → items ≠ [] →
    ReadsItems items
  | [], _, hne => absurd rfl hne
  | [v], h, _ => by
    rw [ItemKeysDistinct] at h
    exact readsItems_singleton (readsValue v h.1)
  | v :: w :: items, h, _ => by
    rw [ItemKeysDistinct] at h
    exact readsItems_cons (readsValue v h.1) (readsItems (w :: items) h.2 (by simp))

theorem readsMembers : (members : List (String × Content)) → MemberKeysDistinct members →
    members ≠ [] → ReadsMembers members
  | [], _, hne => absurd rfl hne
  | [(key, v)], h, _ => by
    rw [MemberKeysDistinct] at h
    exact readsMembers_singleton (readsValue v h.1)
  | (key, v) :: m :: members, h, _ => by
    rw [MemberKeysDistinct] at h
    exact readsMembers_cons (readsValue v h.1) (readsMembers (m :: members) h.2 (by simp))

end

/-- A text of the tokens of a value is read as a tree that says it. -/
theorem Tree.read?_of_written {v : Content} (hkeys : v.KeysDistinct) {s : List Char}
    (h : Written v.tokens s) : ∃ t : Tree, Tree.read? s = some t ∧ t.Says v := by
  have hall : Written (v.tokens ++ []) s := by rwa [List.append_nil]
  obtain ⟨t, rest, hvalue, ht, hrest, -⟩ :=
    readsValue v hkeys (2 * s.length + 1) (Nat.lt_succ_self _) hall
  refine ⟨t, ?_, ht⟩
  rw [Tree.read?, hvalue]
  simp [hrest.skipBlanks_of_nil]

theorem mem_of_written_object {members : List (String × Content)} {text : List Char}
    (h : Written (Content.object members).tokens text) : '\x7b' ∈ text := by
  rw [tokens] at h
  obtain ⟨front, rest, hfront, -, hskip, -⟩ := h.first
  cases hfront
  have hsuffix : skipBlanks text <:+ text := List.dropWhile_suffix isBlank
  exact hsuffix.subset (by simp [hskip])

/-- Reading the text of an object gives its document. -/
theorem read_of_written {members : List (String × Content)}
    (hkeys : (Content.object members).KeysDistinct)
    (hdepth : (Content.object members).depth ≤ depthLimit) {text : List Char}
    (htext : Written (Content.object members).tokens text) :
    read (String.ofList text) = .ok (Content.object members).document := by
  obtain ⟨t, hread, ht⟩ := Tree.read?_of_written hkeys htext
  have hne : Text.trim text ≠ [] :=
    Text.trim_ne_nil_of_mem (mem_of_written_object htext) (by decide)
  have hdocument : (Tree.read? text).bind (·.document? depthLimit) =
      some (.map (memberDocuments members)) := by
    rw [hread, Option.bind_some, ht depthLimit hdepth, document]
  rw [read, String.toList_ofList, if_neg (by simpa using hne), hdocument, document]

/-- Decoding a text of an object gives the flattening of the object, whatever the text has for
blanks and for the spellings of its strings. -/
theorem decode_of_written (delimiter : String) {members : List (String × Content)}
    (hkeys : (Content.object members).KeysDistinct)
    (hdepth : (Content.object members).depth ≤ 127) {text : List Char}
    (htext : Written (Content.object members).tokens text) :
    decode delimiter (Source.ofString (String.ofList text)) =
      ⟨(Content.object members).document.leaves delimiter, none⟩ := by
  rw [decode, Document.decodeWith, Source.text_ofString, ← Document.pairs_eq_leaves]
  simp only [read_of_written hkeys hdepth htext]

/-- A text with blanks and escapes of every kind. -/
theorem decode_of_written_sample :
    let members : List (String × Content) :=
      [("db", .object [("hosts", .array [.string "é", .null, .string "😀\n"])]), ("on", .bool true)]
    let text : List Char :=
      (" \x7b\"db\":\x7b\"hosts\" : [\"\\u00E9\",null,\n\"\\uD83D\\ude00\\n\"]\x7d," ++
        "\"o\\u006e\":true\x7d\t").toList
    (Content.object members).KeysDistinct ∧ (Content.object members).depth ≤ 127 ∧
      Written (Content.object members).tokens text ∧
      decode "." (Source.ofString (String.ofList text)) =
        ⟨(Content.object members).document.leaves ".", none⟩ ∧
      (Content.object members).document.leaves "." =
        [("db.hosts", "é"), ("db.hosts", "😀\n"), ("on", "true")] := by
  intro members text
  have hkeys : (Content.object members).KeysDistinct := by
    simp [members, KeysDistinct, MemberKeysDistinct, ItemKeysDistinct]
  have hdepth : (Content.object members).depth ≤ 127 := by decide
  have hnone : Blanks [] := List.nil_subset _
  have hspace : Blanks [' '] := by simp [Blanks]
  have hline : Blanks ['\n'] := by simp [Blanks]
  have htab : Blanks ['\t'] := by simp [Blanks]
  have hdb : StringSpelled ['d', 'b'] _ := stringSpelled_of_plain (by simp)
  have hhosts : StringSpelled ['h', 'o', 's', 't', 's'] _ := stringSpelled_of_plain (by simp)
  have h0 : IsHexDigit 0 '0' := .inl rfl
  have h3 : IsHexDigit 3 '3' := .inl rfl
  have h6 : IsHexDigit 6 '6' := .inl rfl
  have h8 : IsHexDigit 8 '8' := .inl rfl
  have h9 : IsHexDigit 9 '9' := .inl rfl
  have hd : IsHexDigit 13 'd' := .inl rfl
  have hD : IsHexDigit 13 'D' := .inr rfl
  have he : IsHexDigit 14 'e' := .inl rfl
  have hE : IsHexDigit 14 'E' := .inr rfl
  have hunit : UnitSpelled 'é'.toNat _ := .digits h0 h0 hE h9
  have hhigh : UnitSpelled (0xD800 + ('😀'.toNat - 0x10000) / 0x400) _ := .digits hD h8 h3 hD
  have hlow : UnitSpelled (0xDC00 + ('😀'.toNat - 0x10000) % 0x400) _ := .digits hd he h0 h0
  have hn : UnitSpelled 'n'.toNat _ := .digits h0 h0 h6 he
  have hfirst : StringSpelled "é".toList _ := .quoted (.cons (.unit hunit) .nil)
  have hfeed : CharSpelled '\n' ['\\', 'n'] := .letter (by decide)
  have hsecond : StringSpelled "😀\n".toList _ :=
    .quoted (.cons (.pair (by decide) hhigh hlow) (.cons hfeed .nil))
  have hon : StringSpelled "on".toList _ :=
    .quoted (.cons (.raw (by decide) (by decide) (by decide)) (.cons (.unit hn) .nil))
  have htext : Written (Content.object members).tokens text := by
    have hwritten : Written (Content.object members).tokens _ :=
      .token hspace .beginObject <| .token hnone (.string hdb) <| .token hnone .colon <|
      .token hnone .beginObject <| .token hnone (.string hhosts) <| .token hspace .colon <|
      .token hspace .beginArray <| .token hnone (.string hfirst) <| .token hnone .comma <|
      .token hnone .null <| .token hnone .comma <| .token hline (.string hsecond) <|
      .token hnone .endArray <| .token hnone .endObject <| .token hnone .comma <|
      .token hnone (.string hon) <| .token hnone .colon <| .token hnone (.bool true) <|
      .token hnone .endObject <| .done htab
    exact hwritten
  refine ⟨hkeys, hdepth, htext, decode_of_written "." hkeys hdepth htext, ?_⟩
  simp [members, document, memberDocuments, itemDocuments, Document.leaves, Document.walk]

end LayeredFlags.Json
