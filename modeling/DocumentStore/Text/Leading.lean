/-!
# Fixed beginnings

The text behind a fixed beginning.
-/

set_option autoImplicit false

namespace DocumentStore

/-- Text behind a fixed beginning; `none` when it begins otherwise. -/
def after? (start text : List Char) : Option (List Char) :=
  if start.isPrefixOf text then some (text.drop start.length) else none

/-- What stands behind a beginning makes up the text together with it. -/
theorem after?_eq_some_iff {start text rest : List Char} :
    after? start text = some rest ↔ text = start ++ rest := by
  unfold after?
  split
  · next h =>
    obtain ⟨tail, rfl⟩ := List.isPrefixOf_iff_prefix.1 h
    simp
  · next h =>
    constructor
    · simp
    · rintro rfl
      exact absurd (List.isPrefixOf_iff_prefix.2 (List.prefix_append start rest)) h

end DocumentStore
