import LayeredFlags.Config.Document
import Mathlib.Data.List.Basic

/-!
# Flattening by recursion

A document is flattened with a work list.  The pairs are those of the plain recursive walk over the
tree, in its order, for every document and every delimiter; a receiver that accepts everything is
offered these pairs and no others.
-/

namespace LayeredFlags.Document

/-- The pairs of a document under a name, by recursion: a list hands its name on to its elements,
and a map puts it before the keys of its entries. -/
def walk (delimiter name : String) : Document → List (String × String)
  | .null => []
  | .scalar text => [(name, text)]
  | .list items => items.flatMap fun d => walk delimiter name d
  | .map entries => entries.flatMap fun e => walk delimiter (name ++ delimiter ++ e.1) e.2
termination_by d => sizeOf d
decreasing_by
  · have hd : sizeOf d < sizeOf items := List.sizeOf_lt_of_mem ‹d ∈ items›
    simp only [list.sizeOf_spec]
    omega
  · have he : sizeOf e < sizeOf entries := List.sizeOf_lt_of_mem ‹e ∈ entries›
    obtain ⟨key, d⟩ := e
    simp only [map.sizeOf_spec, Prod.mk.sizeOf_spec] at he ⊢
    omega

/-- The pairs of a whole document, by recursion: the entries of a map at the root go by their keys,
and any other root has no pairs. -/
def leaves (delimiter : String) : Document → List (String × String)
  | .map entries => entries.flatMap fun e => walk delimiter e.1 e.2
  | _ => []

/-! ## The work list -/

theorem flatMap_walk_named (delimiter name : String) (items : List Document) :
    (named name items).flatMap (fun e => walk delimiter e.1 e.2) =
      walk delimiter name (.list items) := by
  rw [named, List.flatMap_map, walk]

theorem flatMap_walk_keyed (delimiter name : String) (entries : List (String × Document)) :
    (keyed (name ++ delimiter) entries).flatMap (fun e => walk delimiter e.1 e.2) =
      walk delimiter name (.map entries) := by
  rw [keyed, List.flatMap_map, walk]

/-- A work list gives the pairs of its documents one after another, so what a list or a map puts
back on it gives the pairs of that list or map. -/
theorem pairsOf_eq_flatMap_walk (delimiter : String) (work : List (String × Document)) :
    pairsOf delimiter work = work.flatMap fun e => walk delimiter e.1 e.2 := by
  induction work using pairsOf.induct delimiter with
  | case1 => rw [pairsOf, List.flatMap_nil]
  | case2 name rest ih => rw [pairsOf, List.flatMap_cons, walk, List.nil_append, ih]
  | case3 name text rest ih => rw [pairsOf, List.flatMap_cons, walk, List.singleton_append, ih]
  | case4 name items rest ih =>
    rw [pairsOf, List.flatMap_cons, ih, List.flatMap_append, flatMap_walk_named]
  | case5 name entries rest ih =>
    rw [pairsOf, List.flatMap_cons, ih, List.flatMap_append, flatMap_walk_keyed]

theorem pairs_eq_leaves (delimiter : String) (d : Document) :
    d.pairs delimiter = d.leaves delimiter := by
  cases d with
  | map entries => exact pairsOf_eq_flatMap_walk delimiter entries
  | _ => rfl

/-! ## Receivers -/

/-- Flattening gives the pairs of the recursive walk, and a receiver that accepts every pair is
offered exactly these, in their order. -/
theorem flattening_eq_walk (delimiter : String) (d : Document) :
    d.pairs delimiter = d.leaves delimiter ∧
      ∀ {σ : Type} (take : String × String → σ → σ) (s : σ),
        Decoded.feed ⟨d.pairs delimiter, none⟩ (fun pair t => ⟨take pair t, none⟩) s =
          ⟨(d.leaves delimiter).foldl (fun t pair => take pair t) s, none⟩ := by
  have hpairs := pairs_eq_leaves delimiter d
  refine ⟨hpairs, fun take s => ?_⟩
  unfold Decoded.feed
  rw [Attempt.each_of_accepting, Attempt.andThen_mk_none, hpairs]

example :
    (map [("db", map [("host", scalar "h"),
        ("replica", list [scalar "a", list [scalar "b", null], map [("k", scalar "c")]])]),
      ("port", scalar "80")]).pairs "." =
    [("db.host", "h"), ("db.replica", "a"), ("db.replica", "b"), ("db.replica.k", "c"),
      ("port", "80")] := by
  cbv

end LayeredFlags.Document
