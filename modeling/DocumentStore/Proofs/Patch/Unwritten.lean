import DocumentStore.Proofs.Patch.Repetition

/-!
# Operations with nothing to write

An operation that has nothing to write keeps the very value it was given, and tells a notice or
none.  There is one exception.  A value that is set at a constraint which selects no item is written
nowhere, but the array and the containers on the way to it are made anew all the same: the content
stays, and yet the value is no longer the very same.

* `Operation.Idles` — where each operator has nothing to write.
* `Operation.Sets` — the two operators that set a value.

Principal results: `leaf_kept_iff` — what each operator keeps at a parent.  `apply_unwritten` — when
an operation keeps the very value, and when it copies it.
-/

set_option autoImplicit false

namespace DocumentStore

variable {L : Type} {fresh : L}

open PathExpr

/-! ## The parent -/

/-- The operator has nothing to write at a parent, and tells the notice: a value is there already,
or the attribute to take away is not; the text stays as it is; no item is found to put others at. -/
def Operation.Idles (last : PathExpr) (parent : Value L) (notice : Option Notice) :
    Operation L → Prop
  | .setIfMissing _ _ => notice = none ∧ ∃ found, last.read parent = .ok (some found)
  | .unset _ => notice = none ∧ ∃ key label fields, last = .attribute key ∧
      parent = .object label fields ∧ Fields.get? fields key = none
  | .diffMatchPatch _ patch => notice = none ∧ ∃ text hunks,
      last.read parent = .ok (some (.string text)) ∧ hunksOf patch.toList = .ok hunks ∧
        (applyHunks hunks text.toList).1 = text.toList
  | .insert insertion => notice = some (.anchorNotFound insertion.anchor) ∧
      last.singleIndex? = none ∧ (∃ label items, parent = .array label items) ∧
        last.read parent = .ok none
  | _ => False

section
variable {last : PathExpr} {parent : Value L} {notice : Option Notice}

theorem calculate_ne_kept {result? : Number → Option Number} :
    Leaf.calculate fresh result? last parent ≠ .ok (.kept notice) := by
  intro h
  unfold Leaf.calculate at h
  obtain ⟨found, -, h⟩ := bind_eq_ok.mp h
  split at h
  · split at h
    · exact rebuild_ne_kept h
    · cases h
  · cases h
  · cases h

theorem unset_kept_iff : Leaf.unset fresh last parent = .ok (.kept notice) ↔
    notice = none ∧ ∃ key label fields, last = .attribute key ∧ parent = .object label fields ∧
      Fields.get? fields key = none := by
  unfold Leaf.unset
  constructor
  · intro h
    split at h
    · split at h
      · rename_i key _ label fields
        split at h
        · cases h
        · rename_i absent
          cases h
          exact ⟨rfl, key, label, fields, rfl, rfl, absent⟩
      · cases h
    · cases h
  · rintro ⟨rfl, key, label, fields, rfl, rfl, absent⟩
    simp only [absent]

theorem patchText_kept_iff {patch : String} :
    Leaf.patchText fresh patch last parent = .ok (.kept notice) ↔
      notice = none ∧ ∃ text hunks, last.read parent = .ok (some (.string text)) ∧
        hunksOf patch.toList = .ok hunks ∧ (applyHunks hunks text.toList).1 = text.toList := by
  unfold Leaf.patchText
  rw [bind_eq_ok]
  constructor
  · rintro ⟨found, hread, h⟩
    split at h
    · rename_i text
      split at h
      · cases h
      · rename_i hunks hhunks
        simp only at h
        split at h
        · rename_i unchanged
          cases h
          exact ⟨rfl, text, hunks, hread, hhunks, unchanged⟩
        · exact absurd h rebuild_ne_kept
    · cases h
    · cases h
  · rintro ⟨rfl, text, hunks, hread, hhunks, unchanged⟩
    refine ⟨_, hread, ?_⟩
    simp only [hhunks, unchanged, if_true]

theorem anchorPlace_none_iff (segment : IsSegment last) (noIndex : last.singleIndex? = none)
    {label : L} {items : List (Value L)} :
    Leaf.anchorPlace last (.array label items) items = .ok none ↔
      last.read (.array label items) = .ok none := by
  have refused {found : Option (Value L)} (h : last.read (.array label items) = .ok found) :
      ∃ relation left right, last = .union [.constraint relation left right] := by
    cases segment.isStep h with
    | name key =>
      unfold PathExpr.read at h
      cases h
    | index i => cases noIndex
    | constraint relation left right => exact ⟨relation, left, right, rfl⟩
  have constraint {relation : Relation} {left : PathExpr} {right : Option PathExpr} :
      Leaf.anchorPlace (.union [.constraint relation left right]) (.array label items) items =
        .ok none ↔ select relation left right items = .ok none := by
    unfold Leaf.anchorPlace singleConstraint?
    simp only [map_eq_ok, Option.map_eq_none_iff, exists_eq_right]
  constructor
  · intro h
    have isConstraint : ∃ relation left right,
        last = .union [.constraint relation left right] := by
      by_cases single : last.singleConstraint? = none
      · unfold Leaf.anchorPlace at h
        simp only [single, map_eq_ok] at h
        obtain ⟨found, hread, -⟩ := h
        exact refused hread
      · unfold singleConstraint? at single
        split at single
        · exact ⟨_, _, _, rfl⟩
        · exact absurd rfl single
    obtain ⟨relation, left, right, rfl⟩ := isConstraint
    exact read_constraint_eq_none_iff.mpr (constraint.mp h)
  · intro h
    obtain ⟨relation, left, right, rfl⟩ := refused h
    exact constraint.mpr (read_constraint_eq_none_iff.mp h)

theorem insert_kept_iff {insertion : Insertion L} (segment : IsSegment last) :
    Leaf.insert fresh insertion last parent = .ok (.kept notice) ↔
      notice = some (.anchorNotFound insertion.anchor) ∧ last.singleIndex? = none ∧
        (∃ label items, parent = .array label items) ∧ last.read parent = .ok none := by
  unfold Leaf.insert
  rw [bind_eq_ok]
  constructor
  · rintro ⟨items, hitems, h⟩
    unfold itemsFor at hitems
    split at hitems
    · rename_i label _
      cases hitems
      split at h
      · cases h
      · rename_i noIndex
        obtain ⟨place, hplace, h⟩ := bind_eq_ok.mp h
        cases place with
        | some place => cases h
        | none =>
          cases h
          have nothing := (anchorPlace_none_iff segment noIndex).mp hplace
          exact ⟨rfl, noIndex, ⟨label, items, rfl⟩, nothing⟩
    · cases hitems
  · rintro ⟨rfl, noIndex, ⟨label, items, rfl⟩, hread⟩
    refine ⟨items, rfl, ?_⟩
    simp only [noIndex, (anchorPlace_none_iff segment noIndex).mpr hread, bind, Except.bind]

/-- **What each operator keeps at a parent.**  An operator that sets or calculates a value keeps
nothing. -/
theorem leaf_kept_iff {operation : Operation L} (segment : IsSegment last) :
    operation.leaf fresh last parent = .ok (.kept notice) ↔
      operation.Idles last parent notice := by
  cases operation with
  | set path value => exact iff_of_false rebuild_ne_kept not_false
  | setIfMissing path value => exact setIfMissing_kept_iff
  | unset path => exact unset_kept_iff
  | dec path amount => exact iff_of_false calculate_ne_kept not_false
  | inc path amount => exact iff_of_false calculate_ne_kept not_false
  | diffMatchPatch path patch => exact patchText_kept_iff
  | insert insertion => exact insert_kept_iff segment

end

/-! ## The whole value -/

namespace Operation

/-- The operator sets a value at the last segment. -/
def Sets : Operation L → Prop
  | .set _ _ => True
  | .setIfMissing _ _ => True
  | _ => False

variable {operation : Operation L} {root : Value L}

/-- **When an operation keeps the very value**: its operator has nothing to write at the parent, or
a step to the parent finds nothing, or a child that counts as false. -/
theorem apply_kept_iff {notice : Option Notice} :
    operation.apply fresh root = .ok (.kept notice) ↔
      ∃ steps last, ofText operation.path = .ok (.path (steps ++ [last])) ∧
        ((∃ parent, Reaches steps root parent ∧ operation.Idles last parent notice) ∨
          ∃ step, Strays steps root step ∧
            notice = some (.segmentNotFound operation.path step)) := by
  have along {steps : List PathExpr} {last : PathExpr}
      (hpath : ofText operation.path = .ok (.path (steps ++ [last]))) :
      operation.apply fresh root = .ok (.kept notice) ↔
        (∃ parent, Reaches steps root parent ∧ operation.Idles last parent notice) ∨
          ∃ step, Strays steps root step ∧
            notice = some (.segmentNotFound operation.path step) := by
    rw [apply_of_path hpath, editParent_kept_iff]
    simp only [leaf_kept_iff (isSegment_of_path hpath).2]
  constructor
  · intro h
    obtain ⟨steps, last, hpath⟩ := exists_path h
    exact ⟨steps, last, hpath, (along hpath).mp h⟩
  · rintro ⟨steps, last, hpath, h⟩
    exact (along hpath).mpr h

/-- A value set at a constraint that selects nothing is written nowhere. -/
theorem leaf_of_unselected {relation : Relation} {left : PathExpr} {right : Option PathExpr}
    {label : L} {items : List (Value L)} (sets : operation.Sets)
    (unselected : select relation left right items = .ok none) :
    operation.leaf fresh (.union [.constraint relation left right]) (.array label items) =
      .ok (.changed (.array fresh items)) := by
  cases operation with
  | set path value => exact rebuild_changed_iff.mpr (.copied unselected)
  | setIfMissing path value =>
    exact setIfMissing_changed_iff.mpr
      ⟨read_constraint_eq_none_iff.mpr unselected, .copied unselected⟩
  | _ => exact sets.elim

/-- **Operations with nothing to write.**  An operation keeps the very value exactly when its
operator has nothing to write at the parent, or when a step to the parent finds nothing or a child
that counts as false.  A value set at a constraint that selects no item is not among these: the
array and the containers on the way are copied, each made anew with the very same children, so the
content stays but the value is another. -/
theorem apply_unwritten (operation : Operation L) (fresh : L) (root : Value L) :
    (∀ notice, operation.apply fresh root = .ok (.kept notice) ↔
      ∃ steps last, ofText operation.path = .ok (.path (steps ++ [last])) ∧
        ((∃ parent, Reaches steps root parent ∧ operation.Idles last parent notice) ∨
          ∃ step, Strays steps root step ∧
            notice = some (.segmentNotFound operation.path step))) ∧
      ∀ steps relation left right label items, operation.Sets →
        ofText operation.path = .ok (.path (steps ++ [.union [.constraint relation left right]])) →
        Reaches steps root (.array label items) → select relation left right items = .ok none →
        ∃ frames, root = plug frames (.array label items) ∧
          Route steps frames (.array label items) ∧
          operation.apply fresh root =
            .ok (.changed (plug (frames.map (Frame.renew fresh)) (.array fresh items))) ∧
          (plug (frames.map (Frame.renew fresh)) (.array fresh items)).content = root.content := by
  refine ⟨fun notice => apply_kept_iff, ?_⟩
  intro steps relation left right label items sets hpath reaches unselected
  obtain ⟨frames, route, rfl, truthy⟩ :=
    (reaches_iff_route (isSegment_of_path hpath).1).mp reaches
  refine ⟨frames, rfl, route, ?_, content_plug fresh rfl⟩
  rw [apply_of_path hpath, route.editParent_eq truthy, leaf_of_unselected sets unselected]
  rfl

/-- There is no desk among the rooms.  What is set there is written nowhere, and yet the value left
is not the very same. -/
theorem apply_unwritten_desk :
    let path := "rooms[id==\"desk\"]"
    let out : Value Nat :=
      .object 9 [("hall", .array 1 []),
        ("rooms", .array 9 [.object 3 [("id", .string "fan")],
          .object 4 [("id", .string "lamp"), ("level", .number (.ofCount 1)),
            ("tags", .array 5 [])]])]
    (Operation.set path (.bool true)).outcome 9 lampRoot = .ok out ∧
      (Operation.setIfMissing path (.bool true)).outcome 9 lampRoot = .ok out ∧
      out.content = lampRoot.content ∧ out.same lampRoot = false := by
  intro path out
  have leaves {operation : Operation Nat} (named : operation.path = path)
      (changes : editParent 9 operation.path (operation.leaf 9 (whereEqual "id" "desk"))
        [.attribute "rooms"] lampRoot = .ok (.changed out)) :
      operation.outcome 9 lampRoot = .ok out := by
    have hpath : ofText operation.path =
        .ok (.path ([.attribute "rooms"] ++ [whereEqual "id" "desk"])) :=
      named ▸ ofText_room (by decide +kernel)
    have applied := (apply_of_path hpath 9 lampRoot).trans changes
    exact outcomeOf_eq_ok_iff.mpr ⟨.changed out, applied, rfl⟩
  exact ⟨leaves rfl rfl, leaves rfl rfl, rfl, rfl⟩

end Operation

end DocumentStore
