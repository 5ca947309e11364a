import LayeredFlags.Config.Document
import LayeredFlags.Toml.Expression

/-!
# TOML tables

The tables that the expressions of a text build up.  A table remembers how it came about: opened
by a header, passed through on the way to one, or made by a dotted key.  A header may open a
table that was only passed through, which then moves behind its siblings; dotted keys may add to
the tables of dotted keys; nothing else is ever extended twice.
-/

namespace LayeredFlags.Toml

/-- How a table came about. -/
inductive TableOrigin where
  | header
  | onTheWay
  | dottedKey
  deriving DecidableEq, Repr

/-- What a key of a table is bound to. -/
inductive Item where
  | leaf (d : Document)
  | table (origin : TableOrigin) (entries : List (String × Item))
  /-- An array of tables, the last one first. -/
  | tables (last : List (String × Item)) (earlier : List (List (String × Item)))
  deriving Repr

/-- The bindings of a table, in order. -/
abbrev Entries := List (String × Item)

namespace Entries

/-- The bindings with that of a known key replaced. -/
def put (key : String) (item : Item) (es : Entries) : Entries :=
  es.map fun e => if e.1 = key then (key, item) else e

/-- The bindings without that of a key. -/
def drop (key : String) (es : Entries) : Entries :=
  es.filter fun e => e.1 ≠ key

/-- Binds the last part of a dotted key, under the tables of the parts before it. -/
def bindPath (d : Document) : (path : List String) → (key : String) → Entries → Option Entries
  | [], key, es => if (es.lookup key).isSome then none else some (es ++ [(key, .leaf d)])
  | part :: path, key, es =>
    match es.lookup part with
    | none => (bindPath d path key []).map fun child => es ++ [(part, .table .dottedKey child)]
    | some (.leaf _) => none
    | some (.table origin child) =>
      if origin = .header || (path.isEmpty && origin ≠ .dottedKey) then none
      else (bindPath d path key child).map fun child => es.put part (.table origin child)
    | some (.tables last earlier) =>
      if path.isEmpty then none
      else (bindPath d path key last).map fun last => es.put part (.tables last earlier)

/-- Binds a key of one or more parts. -/
def bind (path : List String) (d : Document) (es : Entries) : Option Entries :=
  match path.getLast? with
  | some key => bindPath d path.dropLast key es
  | none => none

/-- Opens the table, or a new element of the array of tables, of a header, and fills it. -/
def openPath (element : Bool) (fill : Entries → Option Entries) :
    (path : List String) → Entries → Option Entries
  | [], _ => none
  | [key], es =>
    match element, es.lookup key with
    | false, none => (fill []).map fun child => es ++ [(key, .table .header child)]
    | false, some (.table .onTheWay child) =>
      (fill child).map fun child => es.drop key ++ [(key, .table .header child)]
    | true, none => (fill []).map fun child => es ++ [(key, .tables child [])]
    | true, some (.tables last earlier) =>
      (fill []).map fun child => es.put key (.tables child (last :: earlier))
    | _, _ => none
  | part :: path, es =>
    match es.lookup part with
    | none =>
      (openPath element fill path []).map fun child => es ++ [(part, .table .onTheWay child)]
    | some (.leaf _) => none
    | some (.table origin child) =>
      (openPath element fill path child).map fun child => es.put part (.table origin child)
    | some (.tables last earlier) =>
      (openPath element fill path last).map fun last => es.put part (.tables last earlier)

end Entries

/-! ## Documents -/

mutual

/-- The document of an item. -/
def Item.document : Item → Document
  | .leaf d => d
  | .table _ entries => .map (entryDocuments entries)
  | .tables last earlier => .list (tableDocuments earlier [.map (entryDocuments last)])

/-- The documents of bindings. -/
def entryDocuments : List (String × Item) → List (String × Document)
  | [] => []
  | (key, item) :: rest => (key, item.document) :: entryDocuments rest

/-- The documents of tables, in the opposite order, before others. -/
def tableDocuments : List (List (String × Item)) → List Document → List Document
  | [], later => later
  | entries :: rest, later => tableDocuments rest (.map (entryDocuments entries) :: later)

end

mutual

/-- The document of a value. -/
def Value.document? : Value → Option Document
  | .string s => some (.scalar s)
  | .number n => some (.scalar n.text)
  | .bool b => some (.scalar (if b then "true" else "false"))
  | .datetime t => some (.scalar (String.ofList t.text))
  | .array items => (itemDocuments? items).map .list
  | .inline bindings =>
    (inlineEntries? bindings []).map fun entries => .map (entryDocuments entries)

/-- The documents of the elements of an array. -/
def itemDocuments? : List Value → Option (List Document)
  | [] => some []
  | v :: rest =>
    match v.document?, itemDocuments? rest with
    | some d, some ds => some (d :: ds)
    | _, _ => none

/-- The bindings of an inline table, added to earlier ones. -/
def inlineEntries? : List (List String × Value) → Entries → Option Entries
  | [], es => some es
  | (path, v) :: rest, es =>
    match v.document? with
    | none => none
    | some d =>
      match es.bind path d with
      | none => none
      | some es => inlineEntries? rest es

end

/-! ## Sections -/

/-- The bindings under one header. -/
structure Section where
  path : List String
  element : Bool
  bindings : List (List String × Value)

/-- The bindings before the first header, and the sections of the headers. -/
def sections : List Expression → List (List String × Value) × List Section
  | [] => ([], [])
  | .bind path v :: rest => let (top, later) := sections rest; ((path, v) :: top, later)
  | .table path :: rest => let (top, later) := sections rest; ([], ⟨path, false, top⟩ :: later)
  | .element path :: rest => let (top, later) := sections rest; ([], ⟨path, true, top⟩ :: later)

/-- The root table of a text. -/
def root? (es : List Expression) : Option Entries :=
  let (top, later) := sections es
  (inlineEntries? top []).bind fun entries =>
    later.foldlM (fun entries s => entries.openPath s.element (inlineEntries? s.bindings) s.path)
      entries

end LayeredFlags.Toml
