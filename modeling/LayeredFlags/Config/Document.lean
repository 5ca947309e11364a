import LayeredFlags.Config.Decoder

/-!
# Documents

The tree that a structured format describes, and its flattening into pairs: the keys of nested
maps are joined with a delimiter, every element of a list goes by the name of the list, and a
null gives nothing.  The pairs may be had all at once, or be offered to a receiver on the walk over
the tree.
-/

namespace LayeredFlags

/-- A tree of maps and lists over texts. -/
inductive Document where
  | null
  | scalar (text : String)
  | list (items : List Document)
  | map (entries : List (String × Document))
  deriving Repr

namespace Document

mutual

/-- How many nodes a document has. -/
def weight : Document → Nat
  | .null => 1
  | .scalar _ => 1
  | .list items => 1 + itemsWeight items
  | .map entries => 1 + entriesWeight entries

/-- How many nodes the elements of a list have. -/
def itemsWeight : List Document → Nat
  | [] => 0
  | d :: rest => weight d + itemsWeight rest

/-- How many nodes the values of a map have. -/
def entriesWeight : List (String × Document) → Nat
  | [] => 0
  | (_, d) :: rest => weight d + entriesWeight rest

end

theorem entriesWeight_append (es fs : List (String × Document)) :
    entriesWeight (es ++ fs) = entriesWeight es + entriesWeight fs := by
  induction es with
  | nil => simp [entriesWeight]
  | cons e es ih => simp [entriesWeight, ih]; omega

/-- The elements of a list, each under the name of the list. -/
def named (name : String) (items : List Document) : List (String × Document) :=
  items.map (name, ·)

/-- The entries of a map, with a text before each key. -/
def keyed (lead : String) (entries : List (String × Document)) : List (String × Document) :=
  entries.map fun e => (lead ++ e.1, e.2)

theorem entriesWeight_named (name : String) (items : List Document) :
    entriesWeight (named name items) = itemsWeight items := by
  induction items with
  | nil => simp [named, entriesWeight, itemsWeight]
  | cons d rest ih =>
    rw [named] at ih
    simp [named, entriesWeight, itemsWeight, ih]

theorem entriesWeight_keyed (lead : String) (entries : List (String × Document)) :
    entriesWeight (keyed lead entries) = entriesWeight entries := by
  induction entries with
  | nil => simp [keyed]
  | cons e rest ih =>
    rw [keyed] at ih
    simp [keyed, entriesWeight, ih]

/-- The pairs of named documents, taken from the front of a work list that a list or a map puts
its children back on. -/
def pairsOf (delimiter : String) : List (String × Document) → List (String × String)
  | [] => []
  | (_, .null) :: rest => pairsOf delimiter rest
  | (name, .scalar text) :: rest => (name, text) :: pairsOf delimiter rest
  | (name, .list items) :: rest => pairsOf delimiter (named name items ++ rest)
  | (name, .map entries) :: rest =>
    pairsOf delimiter (keyed (name ++ delimiter) entries ++ rest)
termination_by work => entriesWeight work
decreasing_by
  all_goals simp only [entriesWeight, weight, entriesWeight_append, entriesWeight_named,
    entriesWeight_keyed]
  all_goals omega

/-- The pairs of a document; one whose root is no map has none. -/
def pairs (delimiter : String) : Document → List (String × String)
  | .map entries => pairsOf delimiter entries
  | _ => []

/-- Offers the pairs of named documents while walking over them. -/
def emit {σ : Type} (delimiter : String) (receive : String × String → σ → Attempt σ) :
    List (String × Document) → σ → Attempt σ
  | [], t => ⟨t, none⟩
  | (_, .null) :: rest, t => emit delimiter receive rest t
  | (name, .scalar text) :: rest, t =>
    (receive (name, text) t).andThen (emit delimiter receive rest)
  | (name, .list items) :: rest, t => emit delimiter receive (named name items ++ rest) t
  | (name, .map entries) :: rest, t =>
    emit delimiter receive (keyed (name ++ delimiter) entries ++ rest) t
termination_by work => entriesWeight work
decreasing_by
  all_goals simp only [entriesWeight, weight, entriesWeight_append, entriesWeight_named,
    entriesWeight_keyed]
  all_goals omega

/-- Offers the pairs of a document while walking over it; one whose root is no map has none. -/
def offer {σ : Type} (delimiter : String) (receive : String × String → σ → Attempt σ)
    (d : Document) (t : σ) : Attempt σ :=
  match d with
  | .map entries => emit delimiter receive entries t
  | _ => ⟨t, none⟩

end Document

/-- Reads the text of a source as a document and flattens it.  Where reading or the document
fails there are no pairs. -/
def Document.decodeWith (read : String → Except DecodeError Document) (delimiter : String)
    (s : Source) : Decoded :=
  match s.text with
  | .error reason => .failed (.readFailed reason)
  | .ok text =>
    match read text with
    | .error cause => .failed cause
    | .ok d => ⟨d.pairs delimiter, none⟩

/-- Reads the text of a source as a document and offers its pairs. -/
def Document.stream {σ : Type} (read : String → Except DecodeError Document) (delimiter : String)
    (receive : String × String → σ → Attempt σ) (s : Source) (t : σ) : Attempt σ :=
  match s.text with
  | .error reason => ⟨t, some (.undecodable (.readFailed reason))⟩
  | .ok text =>
    match read text with
    | .error cause => ⟨t, some (.undecodable cause)⟩
    | .ok d => d.offer delimiter receive t

end LayeredFlags
