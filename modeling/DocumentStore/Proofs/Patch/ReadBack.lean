import DocumentStore.Proofs.Patch.Edits
import DocumentStore.Proofs.Path.Reach

/-!
# Values read back

What is set at a path is read there, of two values set the second holds, and a value that is read
and set again leaves the content as it was.  The path may hold constraints: each must select the
same item before and after the write, which it does, as it compares a field or an item that is no
container with a literal, and the write touches only containers on its way.

* `Value.content` — what a value holds, whatever its containers are.
* `IsTest` — the sides of a constraint that was read from a text.
* `Focus` — a path that values are set at and read back from.

Principal results: `sides_of_written` — a write beside the side of a constraint keeps the
constraint.  `Route.refilled` — the same route leads through the frames made anew.  `set_laws` — the
three laws of reading and setting.
-/

set_option autoImplicit false

namespace DocumentStore

variable {L : Type}

open PathExpr

/-! ## Content -/

namespace Value

/-- What a value holds, whatever its containers are: fields and items, in order. -/
def content (value : Value L) : Json := value.relabel (fun _ => ())

/-- Whether a value is an object or an array. -/
def isContainer : Value L → Bool
  | .array _ _ => true
  | .object _ _ => true
  | _ => false

theorem isTruthy_of_isContainer {value : Value L} (h : value.isContainer = true) :
    value.isTruthy = true := by
  cases value with
  | array _ _ => rfl
  | object _ _ => rfl
  | _ => cases h

theorem relabelItems_append {M : Type} (f : L → M) (front back : List (Value L)) :
    relabelItems f (front ++ back) = relabelItems f front ++ relabelItems f back := by
  induction front with
  | nil => rfl
  | cons item rest ih => rw [List.cons_append, relabelItems, relabelItems, ih, List.cons_append]

theorem relabelFields_append {M : Type} (f : L → M) (front back : Fields (Value L)) :
    relabelFields f (front ++ back) = relabelFields f front ++ relabelFields f back := by
  induction front with
  | nil => rfl
  | cons field rest ih =>
    obtain ⟨key, value⟩ := field
    rw [List.cons_append, relabelFields, relabelFields, ih, List.cons_append]

theorem equal_of_isContainer {container other : Value L} (h : container.isContainer = true)
    (hother : other.isContainer = false) : container.equal other = false := by
  cases container with
  | array _ _ => cases other <;> first | rfl | cases hother
  | object _ _ => cases other <;> first | rfl | cases hother
  | _ => cases h

end Value

/-- The labels of a container and of its children do not show in its content. -/
theorem Frame.content_fill {frame : Frame L} {value other : Value L} (fresh : L)
    (h : value.content = other.content) :
    ((frame.renew fresh).fill value).content = (frame.fill other).content := by
  unfold Value.content at h ⊢
  cases frame with
  | field label before key behind =>
    simp only [Frame.renew, Frame.fill, Value.relabel, Value.relabelFields_append,
      Value.relabelFields, h]
  | item label before behind =>
    simp only [Frame.renew, Frame.fill, Value.relabel, Value.relabelItems_append,
      Value.relabelItems, h]

theorem content_plug {frames : List (Frame L)} {value other : Value L} (fresh : L)
    (h : value.content = other.content) :
    (plug (frames.map (Frame.renew fresh)) value).content = (plug frames other).content := by
  induction frames with
  | nil => exact h
  | cons frame rest ih => exact Frame.content_fill fresh ih

theorem Frame.fill_isContainer (frame : Frame L) (child : Value L) :
    (frame.fill child).isContainer = true := by
  cases frame <;> rfl

theorem plug_isContainer {frames : List (Frame L)} {value : Value L}
    (h : value.isContainer = true) : (plug frames value).isContainer = true := by
  cases frames with
  | nil => exact h
  | cons frame rest => exact frame.fill_isContainer _

theorem Written.isContainer {fresh : L} {step : PathExpr} {new parent out : Value L}
    (written : Written fresh new step parent out) :
    parent.isContainer = true ∧ out.isContainer = true := by
  cases written with
  | child _ => exact ⟨Frame.fill_isContainer _ _, Frame.fill_isContainer _ _⟩
  | added _ => exact ⟨rfl, rfl⟩
  | copied _ => exact ⟨rfl, rfl⟩

/-! ## Constraints -/

/-- The right side of a constraint. -/
inductive IsLiteral : PathExpr → Prop
  | string (text : String) : IsLiteral (.string text)
  | boolean (b : Bool) : IsLiteral (.boolean b)
  | number (x : Binary64) : IsLiteral (.number x)

/-- The sides of a constraint that compares: the item or one of its fields, and a literal. -/
inductive IsTest : PathExpr → Option PathExpr → Prop
  | current {literal : PathExpr} (h : IsLiteral literal) : IsTest .alias (some literal)
  | field (key : String) {literal : PathExpr} (h : IsLiteral literal) :
    IsTest (.attribute key) (some literal)

/-- The step to the first item with equal sides. -/
def equality (left : PathExpr) (right : Option PathExpr) : PathExpr :=
  .union [.constraint (.compare .eq) left right]

theorem IsLiteral.read {literal : PathExpr} (h : IsLiteral literal) :
    ∃ value : Value L, value.isContainer = false ∧
      ∀ item : Value L, literal.read item = .ok (some value) := by
  cases h with
  | string text => exact ⟨.string text, rfl, fun _ => by unfold PathExpr.read; rfl⟩
  | boolean b => exact ⟨.bool b, rfl, fun _ => by unfold PathExpr.read; rfl⟩
  | number x =>
    refine ⟨numberValue x, ?_, fun _ => by unfold PathExpr.read; rfl⟩
    unfold numberValue
    split <;> rfl

theorem WritesConstraint.isTest {tokens : List Token} {c : Comparator} {left : PathExpr}
    {right : Option PathExpr}
    (h : WritesConstraint tokens (.constraint (.compare c) left right)) : IsTest left right := by
  cases h with
  | compare _ hleft hright =>
    have literal : ∀ {token : Token} {right : PathExpr}, WritesLiteral token right →
        IsLiteral right := by
      intro token right hright
      cases hright with
      | string text => exact .string text
      | boolean b => exact .boolean b
      | number n => exact .number _
    cases hleft with
    | name hname => cases hname <;> exact .field _ (literal hright)
    | current _ => exact .current (literal hright)

theorem WritesUnion.isTest {rule : StepRule} {tokens : List Token} {left : PathExpr}
    {right : Option PathExpr}
    (h : WritesUnion rule tokens [.constraint (.compare .eq) left right]) : IsTest left right := by
  cases h with
  | terms hterm _ =>
    cases hterm with
    | constraint hconstraint => exact hconstraint.isTest
    | slice hslice => cases hslice

theorem WritesTail.isTest {rule : StepRule} {left : PathExpr} {right : Option PathExpr} :
    ∀ {tokens : List Token} {segments : List PathExpr}, WritesTail rule tokens segments →
      equality left right ∈ segments → IsTest left right
  | _, _, .done, hmem => by cases hmem
  | _, _, .name hname htail, hmem => by
    rcases List.mem_cons.mp hmem with rfl | hrest
    · cases hname
    · exact htail.isTest hrest
  | _, _, .union hterms htail, hmem => by
    rcases List.mem_cons.mp hmem with heq | hrest
    · cases heq
      exact hterms.isTest
    · exact htail.isTest hrest
  | _, _, .descent _, hmem => by
    cases List.mem_singleton.mp hmem

theorem isTest_of_ofText {path : String} {segments : List PathExpr}
    (h : ofText path = .ok (.path segments)) {left : PathExpr} {right : Option PathExpr}
    (hmem : equality left right ∈ segments) : IsTest left right := by
  obtain ⟨tokens, htail⟩ := exists_tail_of_ofText h
  exact htail.isTest hmem

/-- The constraints before the last segment of a path that was read are tests. -/
theorem isTest_of_path {path : String} {steps : List PathExpr} {last : PathExpr}
    (h : ofText path = .ok (.path (steps ++ [last]))) :
    ∀ left right, equality left right ∈ steps → IsTest left right :=
  fun _ _ hmem => isTest_of_ofText h (List.mem_append_left _ hmem)

theorem IsTest.sides_iff {left : PathExpr} {right : Option PathExpr} (test : IsTest left right) :
    ∃ value : Value L, value.isContainer = false ∧ ∀ item : Value L,
      (sides left right item = .ok true ↔
        ∃ found, left.read item = .ok (some found) ∧ found.equal value = true) := by
  obtain ⟨literal, rfl, hliteral⟩ : ∃ literal, right = some literal ∧ IsLiteral literal := by
    cases test with
    | current h => exact ⟨_, rfl, h⟩
    | field key h => exact ⟨_, rfl, h⟩
  obtain ⟨value, hvalue, hread⟩ := hliteral.read (L := L)
  refine ⟨value, hvalue, ?_⟩
  intro item
  unfold sides readRight
  rw [hread item]
  constructor
  · intro h
    rw [bind_eq_ok] at h
    obtain ⟨found, hfound, h⟩ := h
    cases found with
    | none => cases h
    | some found => exact ⟨found, hfound, Except.ok.inj h⟩
  · rintro ⟨found, hfound, hequal⟩
    rw [hfound]
    exact congrArg Except.ok hequal

/-- A container on the way is not what a constraint compares. -/
theorem IsTest.ne_of_leads {left : PathExpr} {right : Option PathExpr} (test : IsTest left right)
    {step : PathExpr} {frame : Frame L} {child : Value L} (leads : Leads step frame child)
    (hchild : child.isContainer = true) (hsides : sides left right (frame.fill child) = .ok true) :
    left ≠ step := by
  rintro rfl
  obtain ⟨value, hvalue, hiff⟩ := test.sides_iff (L := L)
  obtain ⟨found, hfound, hequal⟩ := (hiff _).mp hsides
  rw [leads.read] at hfound
  cases hfound
  rw [Value.equal_of_isContainer hchild hvalue] at hequal
  cases hequal

/-- A container in the place of another keeps a constraint, if the attribute that the constraint
compares is read there as before. -/
theorem sides_of_read {left : PathExpr} {right : Option PathExpr} (test : IsTest left right)
    {parent out : Value L} (container : parent.isContainer = true)
    (reads : ∀ key found, left = .attribute key → left.read parent = .ok (some found) →
      left.read out = .ok (some found))
    (hsides : sides left right parent = .ok true) : sides left right out = .ok true := by
  obtain ⟨value, hvalue, hiff⟩ := test.sides_iff (L := L)
  obtain ⟨found, hfound, hequal⟩ := (hiff parent).mp hsides
  refine (hiff out).mpr ⟨found, ?_, hequal⟩
  cases test with
  | current _ =>
    unfold PathExpr.read at hfound
    cases hfound
    rw [Value.equal_of_isContainer container hvalue] at hequal
    cases hequal
  | field tested _ => exact reads tested found rfl hfound

/-- **A write beside the side of a constraint keeps the constraint.** -/
theorem sides_of_written {left : PathExpr} {right : Option PathExpr} (test : IsTest left right)
    {fresh : L} {step : PathExpr} {new parent out : Value L}
    (written : Written fresh new step parent out) (hbeside : left ≠ step)
    (hsides : sides left right parent = .ok true) : sides left right out = .ok true := by
  refine sides_of_read test written.isContainer.1 (fun tested found hleft hfound => ?_) hsides
  subst hleft
  unfold PathExpr.read at hfound ⊢
  cases written with
  | child leads =>
    cases leads with
    | @name label before key behind old absent =>
      have hne : tested ≠ key := fun h => hbeside (congrArg PathExpr.attribute h)
      simp only [Frame.fill, Frame.renew, Fields.get?_append, Fields.get?_cons, if_neg hne]
        at hfound ⊢
      exact hfound
    | index _ => cases hfound
    | constraint _ => cases hfound
  | @added label fields key absent =>
    have hne : tested ≠ key := fun h => hbeside (congrArg PathExpr.attribute h)
    simp only [Fields.get?_append, Fields.get?_cons, if_neg hne] at hfound ⊢
    rw [Except.ok.inj hfound, Option.some_or]
  | copied _ => cases hfound

/-! ## The way after a write -/

/-- A step leads through a frame made anew, to a child that keeps a constraint if it is one. -/
theorem Leads.renewed {step : PathExpr} {frame : Frame L} {old : Value L}
    (leads : Leads step frame old) (fresh : L) {new : Value L}
    (hkeeps : ∀ left right, step = equality left right → sides left right old = .ok true →
      sides left right new = .ok true) :
    Leads step (frame.renew fresh) new := by
  cases leads with
  | name absent => exact .name absent
  | index place => exact .index place
  | @constraint relation left right label before behind _ selected =>
    obtain ⟨hselectable, before', child, behind', hitems, hplace, hbefore, hchild⟩ :=
      select_eq_some_iff.mp selected
    obtain ⟨rfl, hrest⟩ := List.append_inj hitems hplace
    cases hrest
    have hrelation : relation = .compare .eq := by
      unfold selectable at hselectable
      split at hselectable
      · assumption
      · cases hselectable
    subst hrelation
    exact .constraint (select_eq_some_iff.mpr
      ⟨hselectable, before, new, behind, rfl, rfl, hbefore, hkeeps left right rfl hchild⟩)

/-- **The same route leads through the frames made anew**, to any container in the place of the
parent that keeps the constraint right before it, if there is one. -/
theorem Route.refilled {fresh : L} {parent new : Value L} (hparent : parent.isContainer = true) :
    ∀ {steps : List PathExpr} {frames : List (Frame L)}, Route steps frames parent →
      (∀ left right, equality left right ∈ steps → IsTest left right) →
      (∀ left right, steps.getLast? = some (equality left right) →
        sides left right parent = .ok true → sides left right new = .ok true) →
      Route steps (frames.map (Frame.renew fresh)) new
  | _, _, .here _, _, _ => .here new
  | _, _, @Route.step _ _ frame rest frames _ leads route, htests, hkeeps => by
    have hrest : Route rest (frames.map (Frame.renew fresh)) new := by
      refine route.refilled hparent (fun left right h => htests left right (.tail _ h)) ?_
      intro left right hlast
      refine hkeeps left right ?_
      cases rest with
      | nil => cases hlast
      | cons next rest => rw [List.getLast?_cons_cons, hlast]
    refine .step (leads.renewed fresh ?_) hrest
    rintro left right rfl hsides
    have test : IsTest left right := htests left right List.mem_cons_self
    cases route with
    | here _ => exact hkeeps left right rfl hsides
    | step below _ =>
      -- The next container on the way is a child that no constraint compares.
      have hbeside := test.ne_of_leads below (plug_isContainer hparent) hsides
      exact sides_of_written test (.child below) hbeside hsides

/-- The same route leads to the parent that was written, when no constraint compares the very place
written. -/
theorem Route.renewed {fresh : L} {last : PathExpr} {value parent new : Value L}
    (written : Written fresh value last parent new) {steps : List PathExpr}
    {frames : List (Frame L)} (route : Route steps frames parent)
    (htests : ∀ left right, equality left right ∈ steps → IsTest left right)
    (huntested : ∀ left right, steps.getLast? = some (equality left right) → left ≠ last) :
    Route steps (frames.map (Frame.renew fresh)) new :=
  route.refilled written.isContainer.1 htests (fun left right hlast hsides =>
    sides_of_written (htests left right (List.mem_of_getLast? hlast)) written
      (huntested left right hlast) hsides)

/-! ## The laws -/

/-- A step to one place: an attribute, one index, or one constraint that asks for equality. -/
inductive IsPlace : PathExpr → Prop
  | name (key : String) : IsPlace (.attribute key)
  | index (i : Int) : IsPlace (atIndex i)
  | equality (left : PathExpr) (right : Option PathExpr) : IsPlace (equality left right)

theorem IsPlace.isStep {step : PathExpr} (h : IsPlace step) : IsStep step := by
  cases h with
  | name key => exact .name key
  | index i => exact .index i
  | equality left right => exact .constraint _ left right

/-- The value at a path. -/
def valueAt (path : String) (root : Value L) : Except Fault (Option (Value L)) := do
  (← ofText path).read root

/-- A path to one place.  Its last segment is an attribute or an index, but not the attribute that
a constraint right before it compares. -/
structure Focus (path : String) (steps : List PathExpr) (last : PathExpr) : Prop where
  ofText_eq : ofText path = .ok (.path (steps ++ [last]))
  places : ∀ step ∈ steps, IsPlace step
  addressed : (∃ key, last = .attribute key) ∨ ∃ i, last = atIndex i
  untested : ∀ key right, last = .attribute key →
    steps.getLast? ≠ some (equality (.attribute key) right)

namespace Focus

variable {path : String} {steps : List PathExpr} {last : PathExpr}

theorem isStep (focus : Focus path steps last) : ∀ step ∈ steps ++ [last], IsStep step := by
  intro step hmem
  rcases List.mem_append.mp hmem with hstep | hlast
  · exact (focus.places step hstep).isStep
  · rw [List.mem_singleton.mp hlast]
    rcases focus.addressed with ⟨key, rfl⟩ | ⟨i, rfl⟩
    · exact .name key
    · exact .index i

theorem isTest (focus : Focus path steps last) {left : PathExpr} {right : Option PathExpr}
    (hmem : equality left right ∈ steps) : IsTest left right :=
  isTest_of_path focus.ofText_eq left right hmem

theorem ne_last (focus : Focus path steps last) (left : PathExpr) (right : Option PathExpr)
    (hlast : steps.getLast? = some (equality left right)) : left ≠ last := by
  rintro rfl
  have test : IsTest left right := focus.isTest (List.mem_of_getLast? hlast)
  cases test with
  | current _ => rcases focus.addressed with ⟨key, h⟩ | ⟨i, h⟩ <;> cases h
  | field key _ => exact focus.untested key _ rfl hlast

theorem valueAt_eq (focus : Focus path steps last) (root : Value L) :
    valueAt path root = readSegments (steps ++ [last]) root := by
  unfold valueAt
  rw [focus.ofText_eq]
  show PathExpr.read (.path _) root = _
  unfold PathExpr.read
  rfl

theorem set_iff (focus : Focus path steps last) {fresh : L} {value root out : Value L} :
    (Operation.set path value).apply fresh root = .ok (.changed out) ↔
      ∃ frames parent new, Route steps frames parent ∧ root = plug frames parent ∧
        (steps ≠ [] → parent.isTruthy = true) ∧ Written fresh value last parent new ∧
        out = plug (frames.map (Frame.renew fresh)) new := by
  have hpath : ofText (Operation.set path value).path = .ok (.path (steps ++ [last])) :=
    focus.ofText_eq
  rw [Operation.apply_of_path hpath, editParent_changed_iff]
  unfold Operation.leaf Leaf.set
  simp only [rebuild_changed_iff]

/-- What is written at the last segment stands in a frame, in which any other value would stand if
it had been written instead. -/
theorem written (focus : Focus path steps last) {fresh : L} {value parent new : Value L}
    (written : Written fresh value last parent new) :
    ∃ frame, new = frame.fill value ∧ Leads last frame value ∧
      ∀ label other, Written label other last parent ((frame.renew label).fill other) := by
  cases written with
  | @child _ frame old leads =>
    refine ⟨frame.renew fresh, rfl, leads.renewed fresh ?_, ?_⟩
    · rintro left right rfl
      rcases focus.addressed with ⟨key, h⟩ | ⟨i, h⟩ <;> cases h
    · intro label other
      rw [Frame.renew_renew]
      exact .child leads
  | @added label fields key absent =>
    exact ⟨.field fresh fields key [], rfl, .name absent, fun _ _ => .added absent⟩
  | copied _ => rcases focus.addressed with ⟨key, h⟩ | ⟨i, h⟩ <;> cases h

end Focus

theorem Focus.lampField {path name : String}
    (h : ofText path = .ok (.path (Operation.lampSteps ++ [.attribute name])))
    (untested : name ≠ "id") : Focus path Operation.lampSteps (.attribute name) := by
  refine ⟨h, ?_, .inl ⟨name, rfl⟩, ?_⟩
  · intro step hmem
    rcases List.mem_cons.mp hmem with rfl | hmem
    · exact .name "rooms"
    · cases List.mem_singleton.mp hmem
      exact .equality _ _
  · rintro key right hkey hlast
    cases hkey
    simp [Operation.lampSteps, whereEqual, equality] at hlast
    exact untested hlast.1.symm

/-- **The laws of reading and setting** at a path to one place.  What is set is read there.  Of two
values set the second holds, as if the first had not been.  Where a value is read, any other can be
set; and setting the very value read leaves the content, the order of fields included. -/
theorem set_laws {path : String} {steps : List PathExpr} {last : PathExpr}
    (focus : Focus path steps last) (root : Value L) :
    (∀ fresh value out, (Operation.set path value).apply fresh root = .ok (.changed out) →
      valueAt path out = .ok (some value) ∧
        ∀ label label' other, ∃ again once,
          (Operation.set path other).apply label out = .ok (.changed again) ∧
            (Operation.set path other).apply label' root = .ok (.changed once) ∧
            again.content = once.content) ∧
      ∀ found, valueAt path root = .ok (some found) → ∀ fresh,
        (∃ out, (Operation.set path found).apply fresh root = .ok (.changed out) ∧
          out.content = root.content) ∧
        ∀ value, ∃ out, (Operation.set path value).apply fresh root = .ok (.changed out) := by
  constructor
  · intro fresh value out h
    obtain ⟨frames, parent, new, route, rfl, htruthy, hwritten, rfl⟩ := focus.set_iff.mp h
    obtain ⟨frame, rfl, leads, hother⟩ := focus.written hwritten
    have renewed : Route steps (frames.map (Frame.renew fresh)) (frame.fill value) :=
      route.renewed hwritten (fun _ _ => focus.isTest) focus.ne_last
    constructor
    · rw [focus.valueAt_eq, readSegments_eq_some_iff focus.isStep]
      refine ⟨frames.map (Frame.renew fresh) ++ [frame], renewed.snoc leads, ?_⟩
      rw [plug_append]
      rfl
    · intro label label' other
      have overwritten : Written label other last (frame.fill value)
          ((frame.renew label).fill other) := .child leads
      have again := focus.set_iff.mpr ⟨_, _, _, renewed, rfl, fun _ => frame.fill_isTruthy value,
        overwritten, rfl⟩
      have once := focus.set_iff.mpr ⟨_, _, _, route, rfl, htruthy, hother label' other, rfl⟩
      refine ⟨_, _, again, once, ?_⟩
      have bottom : ((frame.renew label).fill other).content =
          ((frame.renew label').fill other).content :=
        (Frame.content_fill label rfl).trans (Frame.content_fill label' rfl).symm
      exact ((content_plug label bottom).trans (content_plug fresh rfl)).trans
        (content_plug label' rfl).symm
  · intro found h fresh
    rw [focus.valueAt_eq, readSegments_eq_some_iff focus.isStep] at h
    obtain ⟨frames, route, rfl⟩ := h
    obtain ⟨front, frame, rfl, way, leads⟩ := route.exists_snoc
    rw [plug_append]
    have overwritten (value : Value L) : Written fresh value last (frame.fill found)
        ((frame.renew fresh).fill value) := .child leads
    have set (value : Value L) := focus.set_iff.mpr
      ⟨front, _, _, way, rfl, fun _ => frame.fill_isTruthy found, overwritten value, rfl⟩
    exact ⟨⟨_, set found, content_plug fresh (Frame.content_fill fresh rfl)⟩,
      fun value => ⟨_, set value⟩⟩

theorem set_laws_lamp :
    let path := "rooms[id==\"lamp\"].level"
    Focus path Operation.lampSteps (.attribute "level") ∧
      ∃ out, (Operation.set path (.string "dim")).apply 9 Operation.lampRoot = .ok (.changed out) ∧
        valueAt path out = .ok (some (.string "dim")) ∧
        ∃ again once, (Operation.set path .null).apply 8 out = .ok (.changed again) ∧
          (Operation.set path .null).apply 7 Operation.lampRoot = .ok (.changed once) ∧
          again.content = once.content := by
  intro path
  have focus : Focus path Operation.lampSteps (.attribute "level") :=
    .lampField Operation.ofText_lampLevel (by decide)
  have hpath : ofText (Operation.set (L := Nat) path (.string "dim")).path =
      .ok (.path (Operation.lampSteps ++ [.attribute "level"])) := focus.ofText_eq
  have set := Operation.apply_of_path hpath 9 Operation.lampRoot
  obtain ⟨hread, hagain⟩ := (set_laws focus Operation.lampRoot).1 9 _ _ set
  exact ⟨focus, _, set, hread, hagain 8 7 .null⟩

end DocumentStore
