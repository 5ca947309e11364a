import LayeredFlags.Config.Document
import LayeredFlags.Proofs.Json.Spelling
import Mathlib.Data.List.TakeWhile

/-!
# Writing JSON

A tree without numbers is written as a sequence of tokens.  Between the tokens and around them any
blanks may stand, and each string has any of its spellings; so a tree has many texts.
-/

namespace LayeredFlags.Json

/-! ## Trees without numbers -/

/-- A tree of objects and arrays over strings, booleans and nulls. -/
inductive Content where
  | null
  | bool (b : Bool)
  | string (s : String)
  | array (items : List Content)
  | object (members : List (String × Content))

namespace Content

mutual

/-- What a tree describes as a configuration. -/
def document : Content → Document
  | .null => .null
  | .bool b => .scalar (if b then "true" else "false")
  | .string s => .scalar s
  | .array items => .list (itemDocuments items)
  | .object members => .map (memberDocuments members)

/-- What the elements of an array describe. -/
def itemDocuments : List Content → List Document
  | [] => []
  | v :: rest => v.document :: itemDocuments rest

/-- What the members of an object describe. -/
def memberDocuments : List (String × Content) → List (String × Document)
  | [] => []
  | (key, v) :: rest => (key, v.document) :: memberDocuments rest

end

mutual

/-- How many collections are nested in each other. -/
def depth : Content → Nat
  | .array items => 1 + itemsDepth items
  | .object members => 1 + membersDepth members
  | _ => 0

/-- How many collections are nested in the elements of an array. -/
def itemsDepth : List Content → Nat
  | [] => 0
  | v :: rest => max v.depth (itemsDepth rest)

/-- How many collections are nested in the members of an object. -/
def membersDepth : List (String × Content) → Nat
  | [] => 0
  | (_, v) :: rest => max v.depth (membersDepth rest)

end

mutual

/-- No object has a key twice. -/
def KeysDistinct : Content → Prop
  | .array items => ItemKeysDistinct items
  | .object members => (members.map Prod.fst).Nodup ∧ MemberKeysDistinct members
  | _ => True

/-- No object in the elements of an array has a key twice. -/
def ItemKeysDistinct : List Content → Prop
  | [] => True
  | v :: rest => v.KeysDistinct ∧ ItemKeysDistinct rest

/-- No object in the members of an object has a key twice. -/
def MemberKeysDistinct : List (String × Content) → Prop
  | [] => True
  | (_, v) :: rest => v.KeysDistinct ∧ MemberKeysDistinct rest

end

end Content

/-! ## Tokens -/

/-- The tokens of a JSON text. -/
inductive Token where
  | beginArray
  | endArray
  | beginObject
  | endObject
  | comma
  | colon
  | null
  | bool (b : Bool)
  | string (s : String)
  deriving DecidableEq

/-- A token as it may be written. -/
inductive Token.Spelled : Token → List Char → Prop
  | beginArray : Spelled .beginArray ['[']
  | endArray : Spelled .endArray [']']
  | beginObject : Spelled .beginObject ['\x7b']
  | endObject : Spelled .endObject ['\x7d']
  | comma : Spelled .comma [',']
  | colon : Spelled .colon [':']
  | null : Spelled .null "null".toList
  | bool (b : Bool) : Spelled (.bool b) (if b then "true" else "false").toList
  | string {s : String} {t : List Char} (h : StringSpelled s.toList t) : Spelled (.string s) t

/-- Blanks that say nothing. -/
def Blanks (s : List Char) : Prop :=
  s ⊆ [' ', '\t', '\n', '\r']

/-- Tokens with any blanks between them and around them. -/
inductive Written : List Token → List Char → Prop
  | done {blanks : List Char} (hblanks : Blanks blanks) : Written [] blanks
  | token {blanks text rest : List Char} {t : Token} {ts : List Token} (hblanks : Blanks blanks)
      (htext : t.Spelled text) (hrest : Written ts rest) :
      Written (t :: ts) (blanks ++ text ++ rest)

namespace Content

mutual

/-- The tokens of a tree. -/
def tokens : Content → List Token
  | .null => [.null]
  | .bool b => [.bool b]
  | .string s => [.string s]
  | .array items => .beginArray :: ([.comma].intercalate (itemTokens items) ++ [.endArray])
  | .object members =>
    .beginObject :: ([.comma].intercalate (memberTokens members) ++ [.endObject])

/-- The tokens of the elements of an array. -/
def itemTokens : List Content → List (List Token)
  | [] => []
  | v :: rest => v.tokens :: itemTokens rest

/-- The tokens of the members of an object. -/
def memberTokens : List (String × Content) → List (List Token)
  | [] => []
  | (key, v) :: rest => (.string key :: .colon :: v.tokens) :: memberTokens rest

end

end Content

/-! ## Taking tokens from a text -/

theorem Token.Spelled.head {t : Token} {text : List Char} (h : t.Spelled text) :
    ∃ c s, text = c :: s ∧ isBlank c = false ∧
      (c = ']' → t = .endArray) ∧ (c = '\x7d' → t = .endObject) := by
  cases h with
  | bool b => cases b <;> exact ⟨_, _, rfl, by decide⟩
  | string h =>
    obtain ⟨body, rfl, -⟩ := h.read
    exact ⟨_, _, rfl, by decide, fun h => absurd h (by decide), fun h => absurd h (by decide)⟩
  | _ => exact ⟨_, _, rfl, by decide⟩

theorem Blanks.isBlank {blanks : List Char} (h : Blanks blanks) :
    ∀ c ∈ blanks, isBlank c = true := by
  have hall : ∀ c ∈ [' ', '\t', '\n', '\r'], Json.isBlank c = true := by simp [Json.isBlank]
  exact fun c hc => hall c (h hc)

/-- The first token stands behind the blanks. -/
theorem Written.first {t : Token} {ts : List Token} {s : List Char} (h : Written (t :: ts) s) :
    ∃ text rest, t.Spelled text ∧ Written ts rest ∧ skipBlanks s = text ++ rest ∧
      rest.length < s.length := by
  cases h with
  | token hblanks htext hrest =>
    rename_i blanks text rest
    obtain ⟨c, u, rfl, hc, -⟩ := htext.head
    refine ⟨_, _, htext, hrest, ?_, by simp; omega⟩
    rw [List.append_assoc, skipBlanks, List.dropWhile_append_of_pos hblanks.isBlank]
    exact List.dropWhile_cons_of_neg (by simp [hc])

theorem Written.skipBlanks_of_nil {s : List Char} (h : Written [] s) : skipBlanks s = [] := by
  cases h with
  | done hblanks => exact List.dropWhile_eq_nil_iff.2 hblanks.isBlank

theorem Written.skipBlanks {ts : List Token} {s : List Char} (h : Written ts s) :
    Written ts (skipBlanks s) := by
  cases ts with
  | nil =>
    rw [h.skipBlanks_of_nil]
    exact .done (List.nil_subset _)
  | cons t ts =>
    obtain ⟨text, rest, htext, hrest, hskip, -⟩ := h.first
    rw [hskip]
    exact .token (List.nil_subset _) htext hrest

/-- A text shows the end of a collection only where the tokens do. -/
theorem Written.ends {t : Token} {ts : List Token} {s : List Char} (h : Written (t :: ts) s) :
    (∀ u, Json.skipBlanks s = ']' :: u → t = .endArray) ∧
      ∀ u, Json.skipBlanks s = '\x7d' :: u → t = .endObject := by
  obtain ⟨text, rest, htext, -, hskip, -⟩ := h.first
  obtain ⟨c, v, rfl, -, harray, hobject⟩ := htext.head
  rw [hskip]
  exact ⟨fun u hu => harray (List.cons.inj hu).1, fun u hu => hobject (List.cons.inj hu).1⟩

end LayeredFlags.Json
