import DocumentStore.Proofs.Patch.Unwritten

/-!
# Taking a value away

At a path that ends in an attribute, taking the value away undoes writing it where it was missing:
the object gets its fields back, in their order, and so does the whole value.  What is taken away
is missing afterwards, and taking it away again does nothing.  Both hold because the path leads to
the same parent after each write: no constraint on the way compares the attribute written.

Principal results: `Focus.unset_iff` — what taking away makes of a value.  `unset_laws` — setting
and taking away, and taking away twice.
-/

set_option autoImplicit false

namespace DocumentStore

variable {L : Type} {fresh : L}

open PathExpr

/-! ## The parent -/

theorem unset_changed_iff {key : String} {parent new : Value L} :
    Leaf.unset fresh (.attribute key) parent = .ok (.changed new) ↔
      ∃ label fields, parent = .object label fields ∧ Fields.get? fields key ≠ none ∧
        new = .object fresh (Fields.erase fields key) := by
  constructor
  · intro h
    obtain ⟨_, label, fields, hkey, present, rfl, rfl⟩ := unset_changed h
    cases hkey
    exact ⟨label, fields, rfl, present, by rw [Fields.erase_eq_filter]⟩
  · rintro ⟨label, fields, rfl, present, rfl⟩
    obtain ⟨old, found⟩ := Option.ne_none_iff_exists'.mp present
    unfold Leaf.unset
    simp only [found]

/-- Taking away a field beside the side of a constraint keeps the constraint. -/
theorem sides_of_erased {left : PathExpr} {right : Option PathExpr} (test : IsTest left right)
    {key : String} (hbeside : left ≠ .attribute key) {label : L} {fields : Fields (Value L)}
    (hsides : sides left right (.object label fields) = .ok true) :
    sides left right (.object fresh (Fields.erase fields key)) = .ok true := by
  refine sides_of_read test rfl (fun tested found hleft hfound => ?_) hsides
  subst hleft
  have hne : tested ≠ key := fun h => hbeside (congrArg PathExpr.attribute h)
  unfold PathExpr.read at hfound ⊢
  simp only [Fields.get?_erase, if_neg hne]
  exact hfound

/-! ## The whole value -/

namespace Focus

variable {path key : String} {steps : List PathExpr}

theorem valueAt_plug {last : PathExpr} (focus : Focus path steps last) {frames : List (Frame L)}
    {parent : Value L} (route : Route steps frames parent) :
    valueAt path (plug frames parent) = last.read parent := by
  rw [focus.valueAt_eq, route.readSegments_append, readSegments_singleton]

theorem unset_apply_plug (focus : Focus path steps (.attribute key)) {frames : List (Frame L)}
    {label : L} {fields : Fields (Value L)} (route : Route steps frames (.object label fields)) :
    (Operation.unset path).apply fresh (plug frames (.object label fields)) =
      (Leaf.unset fresh (.attribute key) (.object label fields)).map
        (Edit.behind fresh frames) := by
  have hpath : ofText (Operation.unset (L := L) path).path =
      .ok (.path (steps ++ [.attribute key])) := focus.ofText_eq
  rw [Operation.apply_of_path hpath, route.editParent_eq (fun _ => rfl)]
  rfl

/-- **A value is taken away** where a route leads to an object that holds the attribute. -/
theorem unset_iff (focus : Focus path steps (.attribute key)) {root out : Value L} :
    (Operation.unset path).apply fresh root = .ok (.changed out) ↔
      ∃ frames label fields, Route steps frames (.object label fields) ∧
        root = plug frames (.object label fields) ∧ Fields.get? fields key ≠ none ∧
        out = plug (frames.map (Frame.renew fresh)) (.object fresh (Fields.erase fields key)) := by
  have hpath : ofText (Operation.unset (L := L) path).path =
      .ok (.path (steps ++ [.attribute key])) := focus.ofText_eq
  rw [Operation.apply_of_path hpath, editParent_changed_iff]
  unfold Operation.leaf
  simp only [unset_changed_iff]
  constructor
  · rintro ⟨frames, _, _, route, rfl, -, ⟨label, fields, rfl, present, rfl⟩, rfl⟩
    exact ⟨frames, label, fields, route, rfl, present, rfl⟩
  · rintro ⟨frames, label, fields, route, rfl, present, rfl⟩
    exact ⟨frames, _, _, route, rfl, fun _ => rfl, ⟨label, fields, rfl, present, rfl⟩, rfl⟩

/-- The same route leads to the object without the attribute. -/
theorem route_erased (focus : Focus path steps (.attribute key)) {frames : List (Frame L)}
    {label : L} {fields : Fields (Value L)} (route : Route steps frames (.object label fields)) :
    Route steps (frames.map (Frame.renew fresh)) (.object fresh (Fields.erase fields key)) :=
  route.refilled rfl (fun _ _ => focus.isTest) (fun left right hlast =>
    sides_of_erased (focus.isTest (List.mem_of_getLast? hlast)) (focus.ne_last left right hlast))

/-- **Taking away what was set where nothing was** gives the value back. -/
theorem unset_set (focus : Focus path steps (.attribute key)) {root value out : Value L}
    (missing : valueAt path root = .ok none)
    (set : (Operation.set path value).apply fresh root = .ok (.changed out)) (fresh' : L) :
    ∃ back, (Operation.unset path).apply fresh' out = .ok (.changed back) ∧
      back.content = root.content := by
  obtain ⟨frames, parent, new, route, rfl, -, written, rfl⟩ := focus.set_iff.mp set
  have renewed := route.renewed written (fun _ _ => focus.isTest) focus.ne_last
  rw [focus.valueAt_plug route] at missing
  cases written with
  | child leads =>
    rw [leads.read] at missing
    cases missing
  | @added label fields _ absent =>
    have present : Fields.get? (fields ++ [(key, value)]) key ≠ none := by
      simp [Fields.get?_split absent]
    refine ⟨_, focus.unset_iff.mpr ⟨_, fresh, _, renewed, rfl, present, rfl⟩, ?_⟩
    rw [Fields.erase_added absent]
    exact (content_plug fresh' rfl).trans (content_plug fresh rfl)

/-- **What is taken away is missing**, and taking it away again keeps the very value. -/
theorem unset_unset (focus : Focus path steps (.attribute key)) {root out : Value L}
    (unset : (Operation.unset path).apply fresh root = .ok (.changed out)) :
    valueAt path out = .ok none ∧
      ∀ fresh', (Operation.unset path).apply fresh' out = .ok (.kept none) := by
  obtain ⟨frames, label, fields, route, rfl, -, rfl⟩ := focus.unset_iff.mp unset
  have erased : Fields.get? (Fields.erase fields key) key = none := by
    rw [Fields.get?_erase, if_pos rfl]
  have renewed : Route steps (frames.map (Frame.renew fresh))
      (.object fresh (Fields.erase fields key)) := focus.route_erased route
  constructor
  · rw [focus.valueAt_plug renewed]
    unfold PathExpr.read
    exact congrArg Except.ok erased
  · intro fresh'
    have kept : Leaf.unset fresh' (.attribute key)
        (.object fresh (Fields.erase fields key)) = .ok (.kept none) :=
      unset_kept_iff.mpr ⟨rfl, key, _, _, rfl, rfl, erased⟩
    rw [focus.unset_apply_plug renewed, kept]
    rfl

/-- **The fields that are left keep their order**, in the same place. -/
theorem unset_fields (focus : Focus path steps (.attribute key)) {root out : Value L}
    (unset : (Operation.unset path).apply fresh root = .ok (.changed out)) :
    ∃ label fields, readSegments steps root = .ok (some (.object label fields)) ∧
      readSegments steps out =
        .ok (some (.object fresh (fields.filter (fun field => field.1 ≠ key)))) := by
  obtain ⟨frames, label, fields, route, rfl, -, rfl⟩ := focus.unset_iff.mp unset
  refine ⟨label, fields, route.read, ?_⟩
  rw [← Fields.erase_eq_filter]
  exact (focus.route_erased route).read

end Focus

/-- **The laws of setting and taking away** at a path that ends in an attribute.  A value set where
none was is taken away again, and the content is as before, the order of fields included.  A value
taken away is missing, the others of its object keep their order, and taking it away again keeps
the very value. -/
theorem unset_laws {path key : String} {steps : List PathExpr}
    (focus : Focus path steps (.attribute key)) (root : Value L) :
    (valueAt path root = .ok none → ∀ fresh value out,
      (Operation.set path value).apply fresh root = .ok (.changed out) → ∀ fresh', ∃ back,
        (Operation.unset path).apply fresh' out = .ok (.changed back) ∧
          back.content = root.content ∧ (root.DistinctKeys → back.equal root = true)) ∧
      ∀ fresh out, (Operation.unset path).apply fresh root = .ok (.changed out) →
        valueAt path out = .ok none ∧
          (∃ label fields, readSegments steps root = .ok (some (.object label fields)) ∧
            readSegments steps out =
              .ok (some (.object fresh (fields.filter (fun field => field.1 ≠ key))))) ∧
          ∀ fresh', (Operation.unset path).apply fresh' out = .ok (.kept none) := by
  constructor
  · intro missing fresh value out set fresh'
    obtain ⟨back, unset, content⟩ := focus.unset_set missing set fresh'
    exact ⟨back, unset, content, Value.equal_of_content content⟩
  · intro fresh out unset
    obtain ⟨hmissing, hagain⟩ := focus.unset_unset unset
    exact ⟨hmissing, focus.unset_fields unset, hagain⟩

/-- A note is added to the lamp's room, which is still the one with its id, and taken away. -/
theorem unset_laws_lamp :
    let path := "rooms[id==\"lamp\"].note"
    Focus path Operation.lampSteps (.attribute "note") ∧
      valueAt path Operation.lampRoot = .ok none ∧
      ∃ out back, (Operation.set path (.string "dim")).apply 9 Operation.lampRoot =
          .ok (.changed out) ∧
        (Operation.unset path).apply 8 out = .ok (.changed back) ∧
        back.content = Operation.lampRoot.content ∧ valueAt path back = .ok none ∧
        (Operation.unset path).apply 7 back = .ok (.kept none) := by
  intro path
  have hpath : ofText path = .ok (.path (Operation.lampSteps ++ [.attribute "note"])) :=
    Operation.ofText_lampField (by decide +kernel)
  have focus : Focus path Operation.lampSteps (.attribute "note") :=
    .lampField hpath (by decide)
  have missing : valueAt path Operation.lampRoot = .ok none := by
    rw [focus.valueAt_eq]
    rfl
  have hset : ofText (Operation.set (L := Nat) path (.string "dim")).path =
      .ok (.path (Operation.lampSteps ++ [.attribute "note"])) := hpath
  have set := Operation.apply_of_path hset 9 Operation.lampRoot
  obtain ⟨back, unset, content, -⟩ := (unset_laws focus _).1 missing 9 _ _ set 8
  obtain ⟨hmissing, -, hagain⟩ := (unset_laws focus _).2 8 back unset
  exact ⟨focus, missing, _, back, set, unset, content, hmissing, hagain 7⟩

end DocumentStore
