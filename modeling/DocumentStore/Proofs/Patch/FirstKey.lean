import DocumentStore.Proofs.Patch.Independence

/-!
# The first key of a path

Of an object an operation sees and edits one field, that of the key with which its path starts.
Every other path fails on objects, with the same fault whatever their fields.

* `Operation.StartsAt` — the attribute with which the path of an operation starts.
* `Refuses` — editors that fail on objects.

Principal result: `Operation.apply_object` — what an operation can do to an object.
-/

set_option autoImplicit false

namespace DocumentStore

variable {L : Type} {fresh : L}

open PathExpr

/-- The editor fails on objects, with one fault for all of them. -/
def Refuses (editor : Value L → Except Fault (Edit L)) : Prop :=
  ∃ fault, ∀ label fields, editor (.object label fields) = .error fault

/-- The segments that address no field of an object. -/
inductive Keyless : PathExpr → Prop
  | union (terms : List PathExpr) : Keyless (.union terms)
  | recursive (term : PathExpr) : Keyless (.recursive term)

namespace Keyless

variable {step : PathExpr}

theorem read (h : Keyless step) :
    ∃ fault, ∀ (label : L) (fields : Fields (Value L)),
      step.read (.object label fields) = .error fault := by
  cases h with
  | recursive term =>
    unfold PathExpr.read
    exact ⟨_, fun _ _ => rfl⟩
  | union terms =>
    unfold PathExpr.read readUnionTerms itemsFor
    -- An index and a constraint need an array; any other union is not supported.
    split <;> exact ⟨_, fun _ _ => rfl⟩

theorem rebuild (h : Keyless step) (fresh : L) (new : Value L) :
    Refuses (Edit.rebuild fresh step new) := by
  cases h with
  | recursive term => exact ⟨_, fun _ _ => rfl⟩
  | union terms => exact ⟨_, fun _ _ => rfl⟩

/-- **On such a segment of an object every operation fails.** -/
theorem leaf (h : Keyless step) (fresh : L) (operation : Operation L) :
    Refuses (operation.leaf fresh step) := by
  obtain ⟨fault, hread⟩ := h.read (L := L)
  cases operation with
  | set path value => exact h.rebuild fresh value
  | setIfMissing path value =>
    refine ⟨fault, fun label fields => ?_⟩
    simp only [Operation.leaf, Leaf.setIfMissing, hread, bind, Except.bind]
  | unset path => cases h <;> exact ⟨_, fun _ _ => rfl⟩
  | dec path amount | inc path amount =>
    refine ⟨fault, fun label fields => ?_⟩
    simp only [Operation.leaf, Leaf.calculate, hread, bind, Except.bind]
  | diffMatchPatch path patch =>
    refine ⟨fault, fun label fields => ?_⟩
    simp only [Operation.leaf, Leaf.patchText, hread, bind, Except.bind]
  | insert insertion => exact ⟨_, fun _ _ => rfl⟩

theorem editParent (h : Keyless step) (fresh : L) (path : String)
    (leaf : Value L → Except Fault (Edit L)) (rest : List PathExpr) :
    Refuses (DocumentStore.editParent fresh path leaf (step :: rest)) := by
  obtain ⟨fault, hread⟩ := h.read (L := L)
  refine ⟨fault, fun label fields => ?_⟩
  rw [editParent.eq_def]
  simp only [hread, bind, Except.bind]

end Keyless

/-- The first segment of a path that is read is an attribute or addresses no field. -/
theorem first_of_writes {rule : StepRule} {tokens : List Token} {segments : List PathExpr}
    (h : WritesPath rule tokens segments) :
    ∃ first rest, segments = first :: rest ∧ ((∃ key, first = .attribute key) ∨ Keyless first) := by
  cases h with
  | name hname _ => cases hname <;> exact ⟨_, _, rfl, .inl ⟨_, rfl⟩⟩
  | union _ _ => exact ⟨_, _, rfl, .inr (.union _)⟩
  | descent _ => exact ⟨_, _, rfl, .inr (.recursive _)⟩

namespace Operation

/-- The path starts with this attribute. -/
def StartsAt (key : String) (operation : Operation L) : Prop :=
  ∃ rest, ofText operation.path = .ok (.path (.attribute key :: rest))

/-- **What an operation can do to an object**: edit the field with whose key its path starts, by
what it finds there; or fail, whatever the fields are. -/
theorem apply_object (fresh : L) (operation : Operation L) :
    (∃ key act, operation.StartsAt key ∧ AtField fresh key act (operation.apply fresh)) ∨
      Refuses (operation.apply fresh) := by
  cases hpath : ofText operation.path with
  | error fault =>
    refine .inr ⟨fault, fun label fields => ?_⟩
    rw [apply_eq_editPath]
    unfold editPath
    rw [hpath]
    rfl
  | ok expr =>
    obtain ⟨tokens, segments, rfl, writes⟩ := ofText_sound hpath
    obtain ⟨first, rest, rfl, kind⟩ := first_of_writes writes
    -- The first segment is the last one, or the operation goes on behind it.
    obtain rfl | ⟨steps, last, rfl⟩ := List.eq_nil_or_concat rest
    · have path : ofText operation.path = .ok (.path ([] ++ [first])) := hpath
      have happly : operation.apply fresh = operation.leaf fresh first :=
        funext (fun root => apply_of_path path fresh root)
      rw [happly]
      rcases kind with ⟨key, rfl⟩ | keyless
      · exact .inl ⟨key, operation.fieldEdit, ⟨[], hpath⟩, operation.leaf_atField fresh key⟩
      · exact .inr (keyless.leaf fresh operation)
    · rw [List.concat_eq_append, ← List.cons_append] at hpath
      have happly : operation.apply fresh =
          editParent fresh operation.path (operation.leaf fresh last) (first :: steps) :=
        funext (fun root => apply_of_path hpath fresh root)
      rw [happly]
      rcases kind with ⟨key, rfl⟩ | keyless
      · exact .inl ⟨key, _, ⟨steps ++ [last], hpath⟩, atField_editParent fresh _ key _ steps⟩
      · exact .inr (keyless.editParent fresh _ _ steps)

end Operation

end DocumentStore
