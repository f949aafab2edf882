import DocumentStore.Proofs.Patch.DistinctKeys
import DocumentStore.Proofs.Patch.ReadBack

/-!
# Writing where a value is missing, again

What is written where a value is missing is there afterwards, at the same place, so writing there
again finds it and keeps everything.  The constraints on the way select the same items as before:
the object that was written is the only one with a new field, and a constraint that selected it had
read another field of it.  Where the path ends in a constraint that selects nothing, the array is
copied each time.

Principal results: `setIfMissing_again` — the second writing, at the parent.  `setIfMissing_twice` —
the second writing leaves what the first one left.
-/

set_option autoImplicit false

namespace DocumentStore

variable {L : Type}

open PathExpr

/-! ## The parent -/

section
variable {fresh : L} {last : PathExpr} {value parent new : Value L}

theorem setIfMissing_kept_iff {notice : Option Notice} :
    Leaf.setIfMissing fresh value last parent = .ok (.kept notice) ↔
      notice = none ∧ ∃ found, last.read parent = .ok (some found) := by
  unfold Leaf.setIfMissing
  rw [bind_eq_ok]
  constructor
  · rintro ⟨found, hread, h⟩
    cases found with
    | none => exact absurd h rebuild_ne_kept
    | some found =>
      cases h
      exact ⟨rfl, found, hread⟩
  · rintro ⟨rfl, found, hread⟩
    exact ⟨_, hread, rfl⟩

theorem sides_of_missing {left : PathExpr} {right : Option PathExpr} (test : IsTest left right)
    (missing : last.read parent = .ok none) (written : Written fresh value last parent new)
    (hsides : sides left right parent = .ok true) : sides left right new = .ok true := by
  refine sides_of_written test written ?_ hsides
  rintro rfl
  obtain ⟨_, -, hiff⟩ := test.sides_iff (L := L)
  obtain ⟨found, hfound, -⟩ := (hiff parent).mp hsides
  rw [missing] at hfound
  cases hfound

/-- **The second writing at a parent** keeps it, or copies the array in which a constraint selects
nothing. -/
theorem setIfMissing_again (missing : last.read parent = .ok none)
    (written : Written fresh value last parent new) (other : Value L) (fresh' : L) :
    Leaf.setIfMissing fresh' other last new = .ok (.kept none) ∨
      ∃ again relation left right, last = .union [.constraint relation left right] ∧
        Leaf.setIfMissing fresh' other last new = .ok (.changed again) ∧
        again.content = new.content := by
  cases written with
  | child leads =>
    rw [leads.read] at missing
    cases missing
  | @added label fields key absent =>
    have there : Leads (.attribute key) (.field fresh fields key []) value := .name absent
    exact .inl (setIfMissing_kept_iff.mpr ⟨rfl, value, there.read⟩)
  | @copied relation left right label items unselected =>
    exact .inr ⟨.array fresh' items, relation, left, right, rfl, setIfMissing_changed_iff.mpr
      ⟨read_constraint_eq_none_iff.mpr unselected, .copied unselected⟩, rfl⟩

end

/-! ## The whole value -/

theorem Value.equal_of_content {a b : Value L} (h : a.content = b.content)
    (distinct : b.DistinctKeys) : a.equal b = true := by
  have forget (a b : Value L) : a.content.equal b.content = a.equal b :=
    Value.equal_relabel _ _ a b
  rw [← forget, h, forget]
  exact distinct.equal_self

/-- **The second writing along steps** to a parent.  The constraints among them are tests, and each
selects what it selected before. -/
theorem editParent_setIfMissing_again {path : String} {steps : List PathExpr} {last : PathExpr}
    {root value : Value L} {fresh : L} {edit : Edit L}
    (tests : ∀ left right, equality left right ∈ steps → IsTest left right)
    (h : editParent fresh path (Leaf.setIfMissing fresh value last) steps root = .ok edit)
    (other : Value L) (fresh' : L) :
    ∃ again, editParent fresh' path (Leaf.setIfMissing fresh' other last) steps
        (edit.result root) = .ok again ∧
      (again.result (edit.result root)).content = (edit.result root).content ∧
      (again.result (edit.result root) = edit.result root ∨
        ∃ relation left right, last = .union [.constraint relation left right]) := by
  cases edit with
  | kept notice =>
    refine ⟨.kept notice, editParent_kept_iff.mpr ?_, rfl, .inl rfl⟩
    rcases editParent_kept_iff.mp h with ⟨parent, reaches, hleaf⟩ | strays
    · exact .inl ⟨parent, reaches, setIfMissing_kept_iff.mpr (setIfMissing_kept_iff.mp hleaf)⟩
    · exact .inr strays
  | changed once =>
    obtain ⟨frames, parent, new, route, -, -, hleaf, rfl⟩ := editParent_changed_iff.mp h
    obtain ⟨missing, written⟩ := setIfMissing_changed_iff.mp hleaf
    have container : parent.isContainer = true ∧ new.isContainer = true := written.isContainer
    -- The constraint right before the parent read a field of it, so not the one that was missing.
    have route' : Route steps (frames.map (Frame.renew fresh)) new :=
      route.refilled container.1 tests (fun left right hlast =>
        sides_of_missing (tests left right (List.mem_of_getLast? hlast)) missing written)
    have second : editParent fresh' path (Leaf.setIfMissing fresh' other last) steps
        (plug (frames.map (Frame.renew fresh)) new) =
          (Leaf.setIfMissing fresh' other last new).map
            (Edit.behind fresh' (frames.map (Frame.renew fresh))) :=
      route'.editParent_eq (fun _ => Value.isTruthy_of_isContainer container.2)
    rcases setIfMissing_again missing written other fresh' with
      kept | ⟨again, relation, left, right, hlast, changed, content⟩
    · rw [kept] at second
      exact ⟨_, second, rfl, .inl rfl⟩
    · rw [changed] at second
      exact ⟨_, second, content_plug fresh' content, .inr ⟨relation, left, right, hlast⟩⟩

namespace Operation

variable {path : String} {root once : Value L} {fresh : L} {value : Value L}

/-- **Writing where a value is missing, again.**  Where it succeeds, on a path of any segments, so
does writing any other value at the same path in what it left.  The content stays, the order of
fields included; so the values are equal, given that no object had a key twice.  They are the very
same but where the path ends in a constraint, which may select nothing. -/
theorem setIfMissing_twice (h : (Operation.setIfMissing path value).outcome fresh root = .ok once)
    (other : Value L) (fresh' : L) :
    ∃ twice, (Operation.setIfMissing path other).outcome fresh' once = .ok twice ∧
      twice.content = once.content ∧
      (root.DistinctKeys → value.DistinctKeys → twice.equal once = true) ∧
      (twice = once ∨ ∃ steps relation left right,
        ofText path = .ok (.path (steps ++ [.union [.constraint relation left right]]))) := by
  obtain ⟨edit, hfirst, honce⟩ := outcomeOf_eq_ok_iff.mp h
  obtain ⟨steps, last, hpath⟩ := exists_path hfirst
  rw [apply_of_path hpath] at hfirst
  obtain ⟨again, hsecond, content, same⟩ :=
    editParent_setIfMissing_again (isTest_of_path hpath) hfirst other fresh'
  rw [← honce] at hsecond content same
  refine ⟨again.result once, outcomeOf_eq_ok_iff.mpr ⟨again, ?_, rfl⟩, content, ?_, ?_⟩
  · have hpath' : ofText (Operation.setIfMissing path other).path =
        .ok (.path (steps ++ [last])) := hpath
    rw [apply_of_path hpath']
    exact hsecond
  · intro hroot hvalue
    have arguments : (Operation.setIfMissing path value).DistinctKeys := hvalue
    exact Value.equal_of_content content (outcome_distinctKeys arguments hroot h)
  · rcases same with same | ⟨relation, left, right, rfl⟩
    · exact .inl same
    · exact .inr ⟨steps, relation, left, right, hpath⟩

/-- A note is added to the lamp's room, which is found again by its id. -/
theorem setIfMissing_twice_lamp :
    let path := "rooms[id==\"lamp\"].note"
    let once : Value Nat :=
      .object 9 [("hall", .array 1 []),
        ("rooms", .array 9 [.object 3 [("id", .string "fan")], .object 9 [("id", .string "lamp"),
          ("level", .number (.ofCount 1)), ("tags", .array 5 []), ("note", .string "dim")]])]
    (Operation.setIfMissing path (.string "dim")).outcome 9 lampRoot = .ok once ∧
      ∃ twice, (Operation.setIfMissing path .null).outcome 8 once = .ok twice ∧
        twice.content = once.content := by
  intro path once
  have hpath : ofText (Operation.setIfMissing path (.string (L := Nat) "dim")).path =
      .ok (.path (lampSteps ++ [.attribute "note"])) := ofText_lampField (by decide +kernel)
  have first : (Operation.setIfMissing path (.string "dim")).outcome 9 lampRoot = .ok once := by
    refine outcomeOf_eq_ok_iff.mpr ⟨.changed once, ?_, rfl⟩
    rw [apply_of_path hpath]
    rfl
  obtain ⟨twice, second, content, -⟩ := setIfMissing_twice first .null 8
  exact ⟨first, twice, second, content⟩

end Operation

end DocumentStore
