import DocumentStore.Patch.Operation
import DocumentStore.Proofs.Json.Fields
import DocumentStore.Proofs.Success

/-!
# Routes into a value

A step of a path leads from a container to one of its children.  What is left of the container is a
frame around the child, and a path leads down through a frame for every step.  Reading and editing
are both told by these frames: a read gives the value at their bottom, and an edit fills the same
frames, made anew, with what the edit makes of that value.

* `Frame`, `Frame.fill`, `Frame.renew` — a container with one child taken out, and put back.
* `plug` — a value at the bottom of frames.
* `Leads`, `Route` — the frame that a step leads through, and the frames that a path leads through.
* `Written` — what writing one step makes of a container.
* `Edit.behind` — an edit at the bottom of frames, seen from their top.

Principal results: `readSegments_eq_some_iff` — a read follows a route.  `rebuild_changed_iff` —
what a step writes.  `Route.editParent_eq`, `editParent_changed_iff` — an edit follows a route and
renews its frames.
-/

set_option autoImplicit false

namespace DocumentStore

variable {L : Type}

/-! ## Frames -/

/-- A container with one child taken out. -/
inductive Frame (L : Type) where
  | field (label : L) (before : Fields (Value L)) (key : String) (behind : Fields (Value L))
  | item (label : L) (before behind : List (Value L))

namespace Frame

/-- The container with a child in the place of the one taken out. -/
def fill : Frame L → Value L → Value L
  | .field label before key behind, child => .object label (before ++ (key, child) :: behind)
  | .item label before behind, child => .array label (before ++ child :: behind)

/-- The same children around the gap, in a container made anew. -/
def renew (fresh : L) : Frame L → Frame L
  | .field _ before key behind => .field fresh before key behind
  | .item _ before behind => .item fresh before behind

theorem renew_renew (fresh label : L) (frame : Frame L) :
    (frame.renew label).renew fresh = frame.renew fresh := by
  cases frame <;> rfl

theorem fill_isTruthy (frame : Frame L) (child : Value L) : (frame.fill child).isTruthy = true := by
  cases frame <;> rfl

end Frame

/-- A value at the bottom of frames, each of which fills the one before it. -/
def plug : List (Frame L) → Value L → Value L
  | [], value => value
  | frame :: rest, value => frame.fill (plug rest value)

theorem plug_append (front back : List (Frame L)) (value : Value L) :
    plug (front ++ back) value = plug front (plug back value) := by
  induction front with
  | nil => rfl
  | cons frame rest ih => rw [List.cons_append, plug, plug, ih]

/-! ## Items selected -/

namespace PathExpr

/-- Whether both sides of a constraint are there and equal in an item. -/
def sides (left : PathExpr) (right : Option PathExpr) (item : Value L) : Except Fault Bool := do
  let a ← read left item
  let b ← readRight right item
  .ok (sidesMatch a b)

theorem firstMatch_eq_some_iff {check : Value L → Except Fault Bool} :
    ∀ {items : List (Value L)} {i place : Nat},
      firstMatch check i items = .ok (some place) ↔
        ∃ before child behind, items = before ++ child :: behind ∧ place = i + before.length ∧
          (∀ item ∈ before, check item = .ok false) ∧ check child = .ok true
  | [], i, place => by
    unfold firstMatch
    constructor
    · intro h
      cases h
    · rintro ⟨before, child, behind, h, -⟩
      cases before <;> cases h
  | item :: rest, i, place => by
    unfold firstMatch
    rw [bind_eq_ok]
    constructor
    · rintro ⟨found, hcheck, h⟩
      cases found with
      | true =>
        cases h
        exact ⟨[], item, rest, rfl, rfl, fun _ h => (List.not_mem_nil h).elim, hcheck⟩
      | false =>
        obtain ⟨before, child, behind, rfl, rfl, hbefore, hchild⟩ :=
          firstMatch_eq_some_iff.mp h
        refine ⟨item :: before, child, behind, rfl, ?_, ?_, hchild⟩
        · rw [List.length_cons]
          omega
        · intro other hother
          rcases List.mem_cons.mp hother with rfl | hmem
          · exact hcheck
          · exact hbefore other hmem
    · rintro ⟨before, child, behind, hitems, rfl, hbefore, hchild⟩
      cases before with
      | nil =>
        cases hitems
        exact ⟨true, hchild, rfl⟩
      | cons first before =>
        cases hitems
        refine ⟨false, hbefore item List.mem_cons_self, ?_⟩
        refine firstMatch_eq_some_iff.mpr ⟨before, child, behind, rfl, ?_, ?_, hchild⟩
        · rw [List.length_cons]
          omega
        · exact fun other hmem => hbefore other (List.mem_cons_of_mem _ hmem)

/-- No item matches when none passes the check, and none fails in it. -/
theorem firstMatch_eq_none_iff {check : Value L → Except Fault Bool} {items : List (Value L)}
    {i : Nat} : firstMatch check i items = .ok none ↔ ∀ item ∈ items, check item = .ok false := by
  induction items generalizing i with
  | nil => simp [firstMatch]
  | cons item rest ih =>
    unfold firstMatch
    rw [bind_eq_ok, List.forall_mem_cons]
    constructor
    · rintro ⟨found, hcheck, h⟩
      cases found with
      | true => cases h
      | false => exact ⟨hcheck, ih.mp h⟩
    · rintro ⟨hcheck, hrest⟩
      exact ⟨false, hcheck, ih.mpr hrest⟩

/-- **The item that a constraint selects**: the first whose sides are equal.  Only equality with a
right side selects. -/
theorem select_eq_some_iff {relation : Relation} {left : PathExpr} {right : Option PathExpr}
    {items : List (Value L)} {place : Nat} :
    select relation left right items = .ok (some place) ↔
      selectable relation right.isSome = .ok () ∧
        ∃ before child behind, items = before ++ child :: behind ∧ place = before.length ∧
          (∀ item ∈ before, sides left right item = .ok false) ∧
          sides left right child = .ok true := by
  unfold select
  rw [bind_eq_ok]
  constructor
  · rintro ⟨⟨⟩, hselectable, hmatch⟩
    obtain ⟨before, child, behind, hitems, hplace, hbefore, hchild⟩ :=
      firstMatch_eq_some_iff.mp hmatch
    exact ⟨hselectable, before, child, behind, hitems, by omega, hbefore, hchild⟩
  · rintro ⟨hselectable, before, child, behind, hitems, hplace, hbefore, hchild⟩
    exact ⟨(), hselectable, firstMatch_eq_some_iff.mpr
      ⟨before, child, behind, hitems, by omega, hbefore, hchild⟩⟩

theorem select_eq_none_iff {relation : Relation} {left : PathExpr} {right : Option PathExpr}
    {items : List (Value L)} :
    select relation left right items = .ok none ↔
      selectable relation right.isSome = .ok () ∧
        ∀ item ∈ items, sides left right item = .ok false := by
  unfold select
  rw [bind_eq_ok]
  constructor
  · rintro ⟨⟨⟩, hselectable, hmatch⟩
    exact ⟨hselectable, firstMatch_eq_none_iff.mp hmatch⟩
  · rintro ⟨hselectable, hnone⟩
    exact ⟨(), hselectable, firstMatch_eq_none_iff.mpr hnone⟩

theorem readUnionTerms_constraint (relation : Relation) (left : PathExpr)
    (right : Option PathExpr) (label : L) (items : List (Value L)) :
    readUnionTerms [.constraint relation left right] (.array label items) =
      (select relation left right items).map
        (fun place => place.bind (fun place => items[place]?)) := by
  unfold readUnionTerms select itemsFor
  cases selectable relation right.isSome with
  | error fault => rfl
  | ok _ =>
    simp only [bind, Except.bind]
    split <;> simp_all [Except.map]

end PathExpr

/-! ## Steps -/

open PathExpr

/-- A step that a value can be taken along: to a field, to an item by its place, or to the item
that a constraint selects. -/
inductive IsStep : PathExpr → Prop
  | name (key : String) : IsStep (.attribute key)
  | index (i : Int) : IsStep (.union [.index i])
  | constraint (relation : Relation) (left : PathExpr) (right : Option PathExpr) :
    IsStep (.union [.constraint relation left right])

/-- The step leads through the frame to the child taken out of it. -/
inductive Leads : PathExpr → Frame L → Value L → Prop
  | name {label : L} {before : Fields (Value L)} {key : String} {behind : Fields (Value L)}
    {child : Value L} (absent : Fields.get? before key = none) :
    Leads (.attribute key) (.field label before key behind) child
  | index {i : Int} {label : L} {before behind : List (Value L)} {child : Value L}
    (place : resolveIndex (before.length + (behind.length + 1)) i = some before.length) :
    Leads (.union [.index i]) (.item label before behind) child
  | constraint {relation : Relation} {left : PathExpr} {right : Option PathExpr} {label : L}
    {before behind : List (Value L)} {child : Value L}
    (selected : select relation left right (before ++ child :: behind) = .ok (some before.length)) :
    Leads (.union [.constraint relation left right]) (.item label before behind) child

theorem resolveIndex_lt {length place : Nat} {index : Int}
    (h : resolveIndex length index = some place) : place < length := by
  unfold resolveIndex at h
  rw [Option.ite_none_right_eq_some] at h
  obtain ⟨⟨hlow, hhigh⟩, he⟩ := h
  have hplace := Option.some.inj he
  omega

theorem split_of_getElem? {α : Type} : ∀ {items : List α} {place : Nat} {item : α},
    items[place]? = some item →
      ∃ before behind, items = before ++ item :: behind ∧ place = before.length
  | [], _, _, h => by simp at h
  | first :: rest, 0, item, h => by
    rw [List.getElem?_cons_zero] at h
    cases h
    exact ⟨[], rest, rfl, rfl⟩
  | first :: rest, place + 1, item, h => by
    rw [List.getElem?_cons_succ] at h
    obtain ⟨before, behind, rfl, rfl⟩ := split_of_getElem? h
    exact ⟨first :: before, behind, rfl, rfl⟩

theorem getElem?_split {α : Type} (before : List α) (item : α) (behind : List α) :
    (before ++ item :: behind)[before.length]? = some item := by
  rw [List.getElem?_append_right (Nat.le_refl _), Nat.sub_self, List.getElem?_cons_zero]

theorem set_split {α : Type} (before : List α) (item new : α) (behind : List α) :
    (before ++ item :: behind).set before.length new = before ++ new :: behind := by
  rw [List.set_append_right _ _ (Nat.le_refl _), Nat.sub_self, List.set_cons_zero]

theorem read_constraint_eq_none_iff {relation : Relation} {left : PathExpr}
    {right : Option PathExpr} {label : L} {items : List (Value L)} :
    (PathExpr.union [.constraint relation left right]).read (.array label items) = .ok none ↔
      select relation left right items = .ok none := by
  unfold PathExpr.read
  simp only [readUnionTerms_constraint]
  rw [map_eq_ok]
  constructor
  · rintro ⟨place, hselect, hitem⟩
    cases place with
    | none => exact hselect
    | some place =>
      obtain ⟨-, before, child, behind, rfl, rfl, -⟩ := select_eq_some_iff.mp hselect
      rw [Option.bind_some, getElem?_split] at hitem
      cases hitem
  · exact fun hselect => ⟨none, hselect, rfl⟩

/-- **A step reads the child that it leads to.** -/
theorem Leads.read {step : PathExpr} {frame : Frame L} {child : Value L}
    (leads : Leads step frame child) : step.read (frame.fill child) = .ok (some child) := by
  cases leads with
  | name absent =>
    unfold Frame.fill PathExpr.read
    simp only
    rw [Fields.get?_split absent]
  | @index i label before behind _ place =>
    unfold Frame.fill PathExpr.read readUnionTerms itemsFor
    simp only [bind, Except.bind, List.length_append, List.length_cons]
    rw [place, Option.bind_some, getElem?_split]
  | @constraint relation left right label before behind _ selected =>
    unfold Frame.fill PathExpr.read
    simp only
    rw [readUnionTerms_constraint, selected, Except.map, Option.bind_some, getElem?_split]

/-- **A step that reads a child leads to it.** -/
theorem IsStep.leads {step : PathExpr} (hstep : IsStep step) {value child : Value L}
    (h : step.read value = .ok (some child)) :
    ∃ frame, value = frame.fill child ∧ Leads step frame child := by
  cases hstep with
  | name key =>
    unfold PathExpr.read at h
    split at h
    · rename_i label fields
      have found := Except.ok.inj h
      obtain ⟨before, behind, rfl, absent⟩ := Fields.exists_split found
      exact ⟨.field label before key behind, rfl, .name absent⟩
    · cases h
  | index i =>
    unfold PathExpr.read readUnionTerms at h
    rw [bind_eq_ok] at h
    obtain ⟨items, hitems, h⟩ := h
    unfold itemsFor at hitems
    split at hitems
    · rename_i label found
      cases hitems
      obtain ⟨place, hplace, hitem⟩ := Option.bind_eq_some_iff.mp (Except.ok.inj h)
      obtain ⟨before, behind, rfl, rfl⟩ := split_of_getElem? hitem
      rw [List.length_append, List.length_cons] at hplace
      exact ⟨.item label before behind, rfl, .index hplace⟩
    · cases hitems
  | constraint relation left right =>
    unfold PathExpr.read at h
    cases value with
    | array label items =>
      rw [readUnionTerms_constraint] at h
      cases hselect : select relation left right items with
      | error fault => rw [hselect] at h; cases h
      | ok found =>
        rw [hselect] at h
        obtain ⟨place, rfl, hitem⟩ := Option.bind_eq_some_iff.mp (Except.ok.inj h)
        obtain ⟨before, behind, rfl, rfl⟩ := split_of_getElem? hitem
        exact ⟨.item label before behind, rfl, .constraint hselect⟩
    | _ => unfold readUnionTerms at h; cases h

/-- What writing a value at one step makes of a container: the child that the step leads to is
replaced, a new field is put behind the others, or, where a constraint selects no item, the
container is copied. -/
inductive Written (fresh : L) (new : Value L) : PathExpr → Value L → Value L → Prop
  | child {step : PathExpr} {frame : Frame L} {old : Value L} (leads : Leads step frame old) :
    Written fresh new step (frame.fill old) ((frame.renew fresh).fill new)
  | added {label : L} {fields : Fields (Value L)} {key : String}
    (absent : Fields.get? fields key = none) :
    Written fresh new (.attribute key) (.object label fields)
      (.object fresh (fields ++ [(key, new)]))
  | copied {relation : Relation} {left : PathExpr} {right : Option PathExpr} {label : L}
    {items : List (Value L)} (unselected : select relation left right items = .ok none) :
    Written fresh new (.union [.constraint relation left right]) (.array label items)
      (.array fresh items)

theorem Leads.rebuild {step : PathExpr} {frame : Frame L} {old : Value L}
    (leads : Leads step frame old) (fresh : L) (new : Value L) :
    Edit.rebuild fresh step new (frame.fill old) =
      .ok (.changed ((frame.renew fresh).fill new)) := by
  unfold Edit.rebuild write
  cases leads with
  | name absent =>
    simp only [Frame.fill, bind, Except.bind, Fields.set_split absent, Frame.renew]
  | index place =>
    simp only [Frame.fill, itemsFor, bind, Except.bind, List.length_append, List.length_cons, place,
      set_split, Frame.renew]
  | constraint selected =>
    simp only [Frame.fill, itemsFor, bind, Except.bind, selected, Option.map_some, set_split,
      Frame.renew]

theorem isStep_of_rebuild {fresh : L} {step : PathExpr} {new parent out : Value L}
    (h : Edit.rebuild fresh step new parent = .ok (.changed out)) : IsStep step := by
  unfold Edit.rebuild at h
  rw [bind_eq_ok] at h
  obtain ⟨written, hwrite, -⟩ := h
  unfold write at hwrite
  split at hwrite
  · exact .name _
  · rw [bind_eq_ok] at hwrite
    obtain ⟨items, -, hwrite⟩ := hwrite
    split at hwrite
    · exact .index _
    · exact .constraint _ _ _
    · cases hwrite
  · cases hwrite

/-- **What a step writes.** -/
theorem rebuild_changed_iff {fresh : L} {step : PathExpr} {new parent out : Value L} :
    Edit.rebuild fresh step new parent = .ok (.changed out) ↔
      Written fresh new step parent out := by
  constructor
  · intro h
    cases isStep_of_rebuild h with
    | name key =>
      unfold Edit.rebuild write at h
      cases parent with
      | object label fields =>
        cases hget : Fields.get? fields key with
        | some old =>
          obtain ⟨before, behind, rfl, absent⟩ := Fields.exists_split hget
          have leads : Leads (.attribute key) (.field label before key behind) old := .name absent
          simp only [bind, Except.bind, Fields.set_split absent] at h
          cases h
          exact .child leads
        | none =>
          simp only [bind, Except.bind, Fields.set_absent hget] at h
          cases h
          exact .added hget
      | _ => cases h
    | index i =>
      unfold Edit.rebuild write at h
      cases parent with
      | array label items =>
        simp only [itemsFor, bind, Except.bind] at h
        cases hplace : resolveIndex items.length i with
        | none => simp only [hplace] at h; cases h
        | some place =>
          obtain ⟨item, hitem⟩ : ∃ item, items[place]? = some item :=
            ⟨_, List.getElem?_eq_getElem (resolveIndex_lt hplace)⟩
          obtain ⟨before, behind, rfl, rfl⟩ := split_of_getElem? hitem
          rw [List.length_append, List.length_cons] at hplace
          have leads : Leads (.union [.index i]) (.item label before behind) item := .index hplace
          simp only [List.length_append, List.length_cons, hplace, set_split] at h
          cases h
          exact .child leads
      | _ => cases h
    | constraint relation left right =>
      unfold Edit.rebuild write at h
      cases parent with
      | array label items =>
        simp only [itemsFor, bind, Except.bind] at h
        cases hselect : select relation left right items with
        | error fault => simp only [hselect] at h; cases h
        | ok found =>
          simp only [hselect] at h
          cases found with
          | none => cases h; exact .copied hselect
          | some place =>
            obtain ⟨-, before, child, behind, rfl, rfl, -⟩ := select_eq_some_iff.mp hselect
            simp only [Option.map_some, set_split] at h
            cases h
            exact .child (.constraint hselect)
      | _ => cases h
  · intro h
    cases h with
    | child leads => exact leads.rebuild fresh new
    | added absent =>
      unfold Edit.rebuild write
      simp only [bind, Except.bind, Fields.set_absent absent]
    | copied unselected =>
      unfold Edit.rebuild write
      simp only [itemsFor, bind, Except.bind, unselected, Option.map_none, Value.shallowCopy]

/-! ## Routes -/

/-- The steps lead through the frames, one for each step, down to the value. -/
inductive Route : List PathExpr → List (Frame L) → Value L → Prop
  | here (value : Value L) : Route [] [] value
  | step {step : PathExpr} {frame : Frame L} {rest : List PathExpr} {frames : List (Frame L)}
    {value : Value L} (leads : Leads step frame (plug frames value))
    (route : Route rest frames value) : Route (step :: rest) (frame :: frames) value

theorem Route.snoc {steps : List PathExpr} {frames : List (Frame L)} {last : PathExpr}
    {frame : Frame L} {value : Value L} (route : Route steps frames (frame.fill value))
    (leads : Leads last frame value) : Route (steps ++ [last]) (frames ++ [frame]) value := by
  generalize hbottom : frame.fill value = bottom at route
  induction route with
  | here _ => exact .step leads (.here value)
  | step hstep _ ih =>
    subst hbottom
    refine .step ?_ (ih rfl)
    show Leads _ _ (plug (_ ++ [frame]) value)
    rw [plug_append]
    exact hstep

theorem Route.exists_snoc {last : PathExpr} {value : Value L} :
    ∀ {steps : List PathExpr} {frames : List (Frame L)}, Route (steps ++ [last]) frames value →
      ∃ front frame, frames = front ++ [frame] ∧ Route steps front (frame.fill value) ∧
        Leads last frame value
  | [], _, @Route.step _ _ frame _ _ _ leads (.here _) => ⟨[], frame, rfl, .here _, leads⟩
  | _ :: _, _, @Route.step _ _ frame _ _ _ leads route => by
    obtain ⟨front, bottom, rfl, hroute, hlast⟩ := Route.exists_snoc route
    rw [plug_append] at leads
    exact ⟨frame :: front, bottom, rfl, .step leads hroute, hlast⟩

theorem Route.readSegments_append {steps : List PathExpr} {frames : List (Frame L)}
    {value : Value L} (route : Route steps frames value) (rest : List PathExpr) :
    readSegments (steps ++ rest) (plug frames value) = readSegments rest value := by
  induction route with
  | here value => rfl
  | step leads _ ih =>
    rw [List.cons_append]
    unfold plug
    rw [readSegments]
    simp only [leads.read, bind, Except.bind]
    exact ih

theorem readSegments_singleton (segment : PathExpr) (value : Value L) :
    readSegments [segment] value = segment.read value := by
  unfold readSegments
  cases segment.read value with
  | error fault => rfl
  | ok found => cases found <;> rfl

theorem Route.read {steps : List PathExpr} {frames : List (Frame L)} {value : Value L}
    (route : Route steps frames value) :
    readSegments steps (plug frames value) = .ok (some value) := by
  have hread := route.readSegments_append []
  rwa [List.append_nil, readSegments] at hread

/-- **A read follows a route** to the value that it gives. -/
theorem readSegments_eq_some_iff {value : Value L} {steps : List PathExpr} {root : Value L}
    (hsteps : ∀ step ∈ steps, IsStep step) :
    readSegments steps root = .ok (some value) ↔
      ∃ frames, Route steps frames value ∧ root = plug frames value := by
  constructor
  · intro h
    induction steps generalizing root with
    | nil =>
      cases h
      exact ⟨[], .here _, rfl⟩
    | cons step rest ih =>
      rw [List.forall_mem_cons] at hsteps
      unfold readSegments at h
      obtain ⟨found, hread, onward⟩ := bind_eq_ok.mp h
      cases found with
      | none => cases onward
      | some child =>
        obtain ⟨frame, rfl, leads⟩ := hsteps.1.leads hread
        obtain ⟨frames, route, rfl⟩ := ih hsteps.2 onward
        exact ⟨frame :: frames, .step leads route, rfl⟩
  · rintro ⟨frames, route, rfl⟩
    exact route.read

theorem plug_isTruthy {frames : List (Frame L)} {value : Value L} (h : value.isTruthy = true) :
    (plug frames value).isTruthy = true := by
  cases frames with
  | nil => exact h
  | cons frame _ => exact frame.fill_isTruthy _

/-- An edit seen from the top of the frames around it: what is changed fills them, made anew. -/
def Edit.behind (fresh : L) (frames : List (Frame L)) : Edit L → Edit L
  | .kept notice => .kept notice
  | .changed value => .changed (plug (frames.map (Frame.renew fresh)) value)

/-- **An edit along a route** is what becomes of the parent at its end, seen from the top.  Behind a
step, the parent must count as true. -/
theorem Route.editParent_eq {fresh : L} {path : String} {leaf : Value L → Except Fault (Edit L)}
    {parent : Value L} : ∀ {steps : List PathExpr} {frames : List (Frame L)},
      Route steps frames parent → (steps ≠ [] → parent.isTruthy = true) →
        editParent fresh path leaf steps (plug frames parent) =
          (leaf parent).map (Edit.behind fresh frames)
  | _, _, .here _, _ => by
    unfold editParent plug
    cases leaf parent with
    | error fault => rfl
    | ok edit => cases edit <;> rfl
  | _, _, @Route.step _ _ frame rest frames _ leads route, htruthy => by
    have hparent : parent.isTruthy = true := htruthy (List.cons_ne_nil _ _)
    unfold editParent plug
    simp only [leads.read, plug_isTruthy hparent, if_true, route.editParent_eq (fun _ => hparent),
      bind, Except.bind]
    cases leaf parent with
    | error fault => rfl
    | ok edit =>
      cases edit with
      | kept notice => rfl
      | changed new => exact leads.rebuild fresh _

/-- **An edit follows a route** to the parent that it edits, and renews the frames on the way.
Behind a step, the parent must count as true. -/
theorem editParent_changed_iff {fresh : L} {path : String} {leaf : Value L → Except Fault (Edit L)}
    {out : Value L} : ∀ {steps : List PathExpr} {root : Value L},
      editParent fresh path leaf steps root = .ok (.changed out) ↔
        ∃ frames parent new, Route steps frames parent ∧ root = plug frames parent ∧
          (steps ≠ [] → parent.isTruthy = true) ∧ leaf parent = .ok (.changed new) ∧
          out = plug (frames.map (Frame.renew fresh)) new
  | [], root => by
    unfold editParent
    constructor
    · intro h
      exact ⟨[], root, out, .here root, rfl, fun hne => absurd rfl hne, h, rfl⟩
    · rintro ⟨frames, parent, new, route, rfl, -, h, rfl⟩
      cases route
      exact h
  | step :: rest, root => by
    constructor
    · unfold editParent
      rw [bind_eq_ok]
      rintro ⟨found, hread, h⟩
      split at h
      · rename_i child
        split at h
        · rename_i truthy
          rw [bind_eq_ok] at h
          obtain ⟨edit, hedit, h⟩ := h
          split at h
          · rename_i child'
            obtain ⟨frame, rfl, leads⟩ := (isStep_of_rebuild h).leads hread
            rw [leads.rebuild fresh child'] at h
            cases h
            obtain ⟨frames, parent, new, route, rfl, htruthy, hleaf, rfl⟩ :=
              editParent_changed_iff.mp hedit
            refine ⟨frame :: frames, parent, new, .step leads route, rfl, ?_, hleaf, rfl⟩
            intro _
            cases route with
            | here _ => exact truthy
            | step _ _ => exact htruthy (List.cons_ne_nil _ _)
          · cases h
        · cases h
      · cases h
    · rintro ⟨_, parent, new, route, rfl, htruthy, hleaf, rfl⟩
      rw [route.editParent_eq htruthy, hleaf]
      rfl

end DocumentStore
