import LayeredFlags.Text.Cut

/-!
# Separated lists

A list of texts written as one, divided by a separator.  A backslash before the separator keeps
it as text; no other backslash has a meaning.
-/

namespace LayeredFlags.Text

/-- The elements of a text divided by a separator that is not empty; `current` is the beginning
of the first element, reversed. -/
def elementsFrom (sep : List Char) (current : List Char) : List Char → List (List Char)
  | [] => [current.reverse]
  | c :: s =>
    match _h : dropFront? ('\\' :: sep) (c :: s) with
    | some t => elementsFrom sep (sep.reverse ++ current) t
    | none =>
      match _h' : if sep = [] then none else dropFront? sep (c :: s) with
      | some t => current.reverse :: elementsFrom sep [] t
      | none => elementsFrom sep (c :: current) s
termination_by s => s.length
decreasing_by
  · have := congrArg List.length (eq_append_of_dropFront? _h)
    simp only [List.length_append, List.length_cons] at this ⊢
    omega
  · split at _h'
    · simp at _h'
    · next hne =>
      have := congrArg List.length (eq_append_of_dropFront? _h')
      have := List.length_pos_iff.mpr hne
      simp only [List.length_append, List.length_cons] at *
      omega
  · simp

/-- The elements of a text divided by a separator; an empty separator divides nothing. -/
def elements (raw sep : String) : List String :=
  if sep = "" then [raw]
  else (elementsFrom sep.toList [] raw.toList).map String.ofList

end LayeredFlags.Text
