import DocumentStore.Proofs.Path.Derivation
import DocumentStore.Proofs.Path.Route

/-!
# The way to a parent

An operation follows the steps before the last segment of its path, and goes on behind a step only
when the step finds a child that counts as true.  So the steps either lead to a parent, or they
stray at one of them, and then the whole value is kept.

* `Reaches` — the steps lead to a value, every child on the way counting as true.
* `Lost`, `Strays` — a step finds nothing to go on with, and steps that come to such a one.
* `IsSegment` — the segments of a path that was read.

Principal results: `editParent_kept_iff` — when an edit keeps the value.  `reaches_iff_route`,
`reaches_iff_read` — the steps of a path that was read lead along a route, to what they read.
-/

set_option autoImplicit false

namespace DocumentStore

variable {L : Type}

open PathExpr

/-! ## To the parent, or astray -/

/-- The steps lead from the root to the value.  Every child on the way counts as true. -/
inductive Reaches : List PathExpr → Value L → Value L → Prop
  | here (value : Value L) : Reaches [] value value
  | step {step : PathExpr} {rest : List PathExpr} {root child value : Value L}
    (found : step.read root = .ok (some child)) (truthy : child.isTruthy = true)
    (onward : Reaches rest child value) : Reaches (step :: rest) root value

/-- The step finds nothing, or a child that counts as false. -/
def Lost (step : PathExpr) (value : Value L) : Prop :=
  ∃ found, step.read value = .ok found ∧ ∀ child, found = some child → child.isTruthy = false

/-- The steps lead on to one of them, which is lost. -/
inductive Strays : List PathExpr → Value L → PathExpr → Prop
  | here {step : PathExpr} {rest : List PathExpr} {root : Value L} (lost : Lost step root) :
    Strays (step :: rest) root step
  | step {step stray : PathExpr} {rest : List PathExpr} {root child : Value L}
    (found : step.read root = .ok (some child)) (truthy : child.isTruthy = true)
    (onward : Strays rest child stray) : Strays (step :: rest) root stray

/-- Writing at a step makes a container anew, even where no item is selected. -/
theorem rebuild_ne_kept {fresh : L} {step : PathExpr} {new parent : Value L}
    {notice : Option Notice} : Edit.rebuild fresh step new parent ≠ .ok (.kept notice) := by
  unfold Edit.rebuild
  intro h
  obtain ⟨written, -, h⟩ := bind_eq_ok.mp h
  cases written <;> cases h

section
variable {fresh : L} {path : String} {leaf : Value L → Except Fault (Edit L)}

theorem editParent_of_kept {step : PathExpr} {rest : List PathExpr} {root child : Value L}
    {notice : Option Notice} (found : step.read root = .ok (some child))
    (truthy : child.isTruthy = true)
    (kept : editParent fresh path leaf rest child = .ok (.kept notice)) :
    editParent fresh path leaf (step :: rest) root = .ok (.kept notice) := by
  unfold editParent
  simp only [found, truthy, if_true, kept, bind, Except.bind]

theorem editParent_of_lost {step : PathExpr} {root : Value L} (lost : Lost step root)
    (rest : List PathExpr) :
    editParent fresh path leaf (step :: rest) root =
      .ok (.kept (some (.segmentNotFound path step))) := by
  obtain ⟨found, hread, falsy⟩ := lost
  unfold editParent
  cases found with
  | none => simp only [hread, bind, Except.bind]
  | some child =>
    simp only [hread, falsy child rfl, Bool.false_eq_true, if_false, bind, Except.bind]

/-- **When an edit keeps the value**: the parent is kept, or a step is lost on the way to it, and
that step is told. -/
theorem editParent_kept_iff {notice : Option Notice} :
    ∀ {steps : List PathExpr} {root : Value L},
      editParent fresh path leaf steps root = .ok (.kept notice) ↔
        (∃ parent, Reaches steps root parent ∧ leaf parent = .ok (.kept notice)) ∨
          ∃ step, Strays steps root step ∧ notice = some (.segmentNotFound path step)
  | [], root => by
    unfold editParent
    constructor
    · exact fun h => .inl ⟨root, .here root, h⟩
    · rintro (⟨_, ⟨⟩, h⟩ | ⟨step, ⟨⟩, -⟩)
      exact h
  | step :: rest, root => by
    constructor
    · unfold editParent
      rw [bind_eq_ok]
      rintro ⟨found, hread, h⟩
      split at h
      · rename_i child
        split at h
        · rename_i truthy
          obtain ⟨edit, hedit, h⟩ := bind_eq_ok.mp h
          split at h
          · exact absurd h rebuild_ne_kept
          · cases h
            rcases editParent_kept_iff.mp hedit with
              ⟨parent, onward, hleaf⟩ | ⟨stray, onward, told⟩
            · exact .inl ⟨parent, .step hread truthy onward, hleaf⟩
            · exact .inr ⟨stray, .step hread truthy onward, told⟩
        · rename_i falsy
          cases h
          refine .inr ⟨step, .here ⟨_, hread, ?_⟩, rfl⟩
          rintro _ ⟨⟩
          exact Bool.eq_false_iff.mpr falsy
      · cases h
        refine .inr ⟨step, .here ⟨none, hread, ?_⟩, rfl⟩
        rintro _ ⟨⟩
    · rintro (⟨parent, reaches, hleaf⟩ | ⟨stray, strays, told⟩)
      · cases reaches with
        | step found truthy onward =>
          exact editParent_of_kept found truthy
            (editParent_kept_iff.mpr (.inl ⟨parent, onward, hleaf⟩))
      · cases strays with
        | here lost => exact told ▸ editParent_of_lost lost rest
        | step found truthy onward =>
          exact editParent_of_kept found truthy
            (editParent_kept_iff.mpr (.inr ⟨stray, onward, told⟩))

end

/-! ## The steps of a path that was read -/

/-- A segment of a path that was read. -/
inductive IsSegment : PathExpr → Prop
  | name (key : String) : IsSegment (.attribute key)
  | union (terms : List PathExpr) : IsSegment (.union terms)
  | descent (term : PathExpr) : IsSegment (.recursive term)

theorem WritesTail.isSegment {rule : StepRule} : ∀ {tokens : List Token}
    {segments : List PathExpr}, WritesTail rule tokens segments →
      ∀ segment ∈ segments, IsSegment segment
  | _, _, .done, _, hmem => (List.not_mem_nil hmem).elim
  | _, _, .name hname htail, segment, hmem => by
    rcases List.mem_cons.mp hmem with rfl | hrest
    · cases hname <;> exact .name _
    · exact htail.isSegment segment hrest
  | _, _, .union _ htail, segment, hmem => by
    rcases List.mem_cons.mp hmem with rfl | hrest
    · exact .union _
    · exact htail.isSegment segment hrest
  | _, _, .descent _, _, hmem => by
    rw [List.mem_singleton.mp hmem]
    exact .descent _

theorem WritesPath.exists_tail {rule : StepRule} {tokens : List Token} {segments : List PathExpr}
    (h : WritesPath rule tokens segments) : ∃ tokens, WritesTail rule tokens segments := by
  cases h with
  | name hname htail => exact ⟨_, .name hname htail⟩
  | union hterms htail => exact ⟨_, .union hterms htail⟩
  | descent hpath => exact ⟨_, .descent hpath⟩

theorem exists_tail_of_ofText {path : String} {segments : List PathExpr}
    (h : ofText path = .ok (.path segments)) : ∃ tokens, WritesTail .optional tokens segments := by
  obtain ⟨tokens, written, heq, hwrites⟩ := ofText_sound h
  cases heq
  exact hwrites.exists_tail

theorem isSegment_of_ofText {path : String} {segments : List PathExpr}
    (h : ofText path = .ok (.path segments)) : ∀ segment ∈ segments, IsSegment segment := by
  obtain ⟨tokens, htail⟩ := exists_tail_of_ofText h
  exact htail.isSegment

theorem isSegment_of_path {path : String} {steps : List PathExpr} {last : PathExpr}
    (h : ofText path = .ok (.path (steps ++ [last]))) :
    (∀ step ∈ steps, IsSegment step) ∧ IsSegment last := by
  have segments := isSegment_of_ofText h
  rw [List.forall_mem_append] at segments
  exact ⟨segments.1, segments.2 last List.mem_cons_self⟩

/-- A segment that reads leads to a child: descents and unions of several terms are refused. -/
theorem IsSegment.isStep {step : PathExpr} (segment : IsSegment step) {value : Value L}
    {found : Option (Value L)} (h : step.read value = .ok found) : IsStep step := by
  cases segment with
  | name key => exact .name key
  | union terms =>
    unfold PathExpr.read readUnionTerms at h
    split at h
    · exact .index _
    · exact .constraint _ _ _
    · cases h
  | descent term =>
    unfold PathExpr.read at h
    cases h

theorem IsSegment.isTruthy {step : PathExpr} (segment : IsSegment step) {value child : Value L}
    (h : step.read value = .ok (some child)) : value.isTruthy = true := by
  obtain ⟨frame, rfl, -⟩ := (segment.isStep h).leads h
  exact frame.fill_isTruthy child

/-- **The steps of a path that was read lead along a route**, to a parent that counts as true unless
it is the root. -/
theorem reaches_iff_route {parent : Value L} : ∀ {steps : List PathExpr} {root : Value L},
    (∀ step ∈ steps, IsSegment step) →
      (Reaches steps root parent ↔ ∃ frames, Route steps frames parent ∧
        root = plug frames parent ∧ (steps ≠ [] → parent.isTruthy = true))
  | [], root, _ => by
    constructor
    · rintro ⟨⟩
      exact ⟨[], .here _, rfl, fun h => absurd rfl h⟩
    · rintro ⟨_, ⟨⟩, rfl, -⟩
      exact .here _
  | step :: rest, root, hsegments => by
    have hrest : ∀ step ∈ rest, IsSegment step :=
      fun other h => hsegments other (List.mem_cons_of_mem _ h)
    constructor
    · rintro (_ | ⟨found, truthy, onward⟩)
      obtain ⟨frames, route, rfl, htruthy⟩ := (reaches_iff_route hrest).mp onward
      obtain ⟨frame, rfl, leads⟩ :=
        ((hsegments step List.mem_cons_self).isStep found).leads found
      refine ⟨frame :: frames, .step leads route, rfl, fun _ => ?_⟩
      cases route with
      | here _ => exact truthy
      | step _ _ => exact htruthy (List.cons_ne_nil _ _)
    · rintro ⟨_, route, rfl, htruthy⟩
      have truthy : parent.isTruthy = true := htruthy (List.cons_ne_nil _ _)
      cases route with
      | step leads route =>
        exact .step leads.read (plug_isTruthy truthy)
          ((reaches_iff_route hrest).mpr ⟨_, route, rfl, fun _ => truthy⟩)

/-- Where the steps read a parent that counts as true, they lead to it: all before it are
containers. -/
theorem reaches_iff_read {parent : Value L} (truthy : parent.isTruthy = true) :
    ∀ {steps : List PathExpr} {root : Value L}, (∀ step ∈ steps, IsSegment step) →
      (Reaches steps root parent ↔ readSegments steps root = .ok (some parent))
  | [], root, _ => by
    unfold readSegments
    constructor
    · rintro ⟨⟩
      rfl
    · intro h
      cases h
      exact .here parent
  | step :: rest, root, hsegments => by
    have hrest : ∀ step ∈ rest, IsSegment step :=
      fun other h => hsegments other (List.mem_cons_of_mem _ h)
    unfold readSegments
    rw [bind_eq_ok]
    constructor
    · rintro (_ | ⟨found, -, onward⟩)
      exact ⟨_, found, (reaches_iff_read truthy hrest).mp onward⟩
    · rintro ⟨found, hread, h⟩
      cases found with
      | none => cases h
      | some child =>
        have onward : Reaches rest child parent := (reaches_iff_read truthy hrest).mpr h
        refine .step hread ?_ onward
        cases onward with
        | here _ => exact truthy
        | step found _ _ => exact (hrest _ List.mem_cons_self).isTruthy found

end DocumentStore
