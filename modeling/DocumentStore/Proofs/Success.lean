/-!
# Steps that succeed or fail

What a computation that may fail leaves behind when it succeeds: each of its steps did.  When it
fails, one of them did.
-/

set_option autoImplicit false

namespace DocumentStore

theorem bind_eq_ok {ε α β : Type} {first : Except ε α} {next : α → Except ε β} {result : β} :
    (first >>= next) = .ok result ↔ ∃ value, first = .ok value ∧ next value = .ok result := by
  constructor
  · intro h
    cases first with
    | error fault => cases h
    | ok value => exact ⟨value, rfl, h⟩
  · rintro ⟨value, rfl, h⟩
    exact h

theorem bind_eq_error {ε α β : Type} {first : Except ε α} {next : α → Except ε β} {fault : ε} :
    (first >>= next) = .error fault ↔
      first = .error fault ∨ ∃ value, first = .ok value ∧ next value = .error fault := by
  cases first with
  | error other => simp [bind, Except.bind]
  | ok value => simp [bind, Except.bind]

theorem map_eq_error {ε α β : Type} {computation : Except ε α} {f : α → β} {fault : ε} :
    computation.map f = .error fault ↔ computation = .error fault := by
  cases computation <;> simp [Except.map]

theorem map_eq_ok {ε α β : Type} {computation : Except ε α} {f : α → β} {result : β} :
    computation.map f = .ok result ↔ ∃ value, computation = .ok value ∧ f value = result := by
  cases computation <;> simp [Except.map]

theorem eq_ok_of_toOption {ε α : Type} {computation : Except ε α} {value : α}
    (h : computation.toOption = some value) : computation = .ok value := by
  cases computation with
  | error fault => cases h
  | ok found => cases h; rfl

end DocumentStore
