/-!
# Pieces of a text

A text cut at every place where a separator stands.  There is always one piece more than there
are separators.

* `piecesOf` — the pieces, in order.
* `piecesOf_intercalate` — texts without the separator are the pieces of what they make up.
-/

set_option autoImplicit false

namespace DocumentStore

/-- The pieces of a text between the places of a separator. -/
def piecesOf (separator : Char) : List Char → List (List Char)
  | [] => [[]]
  | c :: rest =>
    if c = separator then [] :: piecesOf separator rest
    else match piecesOf separator rest with
      | [] => [[c]]
      | piece :: pieces => (c :: piece) :: pieces

theorem piecesOf_of_not_mem {separator : Char} : ∀ {text : List Char}, separator ∉ text →
    piecesOf separator text = [text]
  | [], _ => rfl
  | c :: rest, h => by
    have hc : c ≠ separator := (List.ne_of_not_mem_cons h).symm
    rw [piecesOf, if_neg hc, piecesOf_of_not_mem (List.not_mem_of_not_mem_cons h)]

theorem piecesOf_append_cons {separator : Char} : ∀ {piece : List Char}, separator ∉ piece →
    ∀ rest, piecesOf separator (piece ++ separator :: rest) = piece :: piecesOf separator rest
  | [], _, rest => by rw [List.nil_append, piecesOf, if_pos rfl]
  | c :: piece, h, rest => by
    have hc : c ≠ separator := (List.ne_of_not_mem_cons h).symm
    rw [List.cons_append, piecesOf, if_neg hc,
      piecesOf_append_cons (List.not_mem_of_not_mem_cons h)]

/-- Texts without the separator are the pieces of what they make up with it between them. -/
theorem piecesOf_intercalate {separator : Char} : ∀ {pieces : List (List Char)}, pieces ≠ [] →
    (∀ piece ∈ pieces, separator ∉ piece) →
      piecesOf separator ([separator].intercalate pieces) = pieces
  | [], h, _ => absurd rfl h
  | [piece], _, clean => by
    rw [List.intercalate_singleton, piecesOf_of_not_mem (clean piece List.mem_cons_self)]
  | piece :: next :: others, _, clean => by
    obtain ⟨hpiece, hothers⟩ := List.forall_mem_cons.mp clean
    rw [List.intercalate_cons_cons, List.append_assoc, List.singleton_append,
      piecesOf_append_cons hpiece, piecesOf_intercalate (List.cons_ne_nil next others) hothers]

end DocumentStore
