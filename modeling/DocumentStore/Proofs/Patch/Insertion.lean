import DocumentStore.Proofs.Patch.Unwritten

/-!
# Where items are inserted

Items go to one place of an array: that of an index, or that of the first item that a constraint
selects.  An item selected is looked for again among the items before others are put in there, and
is found at its own place, though others look like it.

* `Position.placed` — the items of an array after others are put in at one of them.
* `PathExpr.constant?`, `Value.fieldEquals` — the value that a literal stands for, and the records
  of which a field equals it.
* `Rearranges` — an insertion turns the array at the end of the steps into one of other items.

Principal results: `insertAt_eq_placed` — items put in leave the others in their order.
`select_record` — the record that a constraint on a field selects.  `findIdx?_same` — the very same
record is found first at its own place.  `insert_places` — where an insertion puts its items.
-/

set_option autoImplicit false

namespace DocumentStore

variable {L : Type}

open PathExpr

/-! ## Places -/

/-- The items of an array after others are put in behind one of them, before it or in its place. -/
def Position.placed {α : Type} (new before : List α) (item : α) (behind : List α) :
    Position → List α
  | .after => before ++ item :: (new ++ behind)
  | .before => before ++ (new ++ item :: behind)
  | .replace => before ++ (new ++ behind)

theorem insertAt_eq_placed (position : Position) (new before : List (Value L)) (item : Value L)
    (behind : List (Value L)) :
    Leaf.insertAt position before.length (before ++ item :: behind) new =
      position.placed new before item behind := by
  have upTo : (before ++ item :: behind).take (before.length + 1) = before ++ [item] := by
    rw [List.take_length_add_append, List.take_succ_cons, List.take_zero]
  have beyond : (before ++ item :: behind).drop (before.length + 1) = behind := by
    rw [List.drop_length_add_append, List.drop_succ_cons, List.drop_zero]
  cases position <;> simp [Leaf.insertAt, Position.placed, upTo, beyond]

/-! ## Records selected -/

/-- The value that a literal of a path stands for. -/
def PathExpr.constant? : PathExpr → Option (Value L)
  | .string text => some (.string text)
  | .number x => some (numberValue x)
  | .boolean b => some (.bool b)
  | _ => none

/-- Whether a value is a record. -/
def Value.isRecord : Value L → Bool
  | .object _ _ => true
  | _ => false

/-- Whether a value is a record with a field that equals another value. -/
def Value.fieldEquals (item : Value L) (key : String) (constant : Value L) : Bool :=
  (item.field? key).any (fun found => found.equal constant)

section
variable {key : String} {literal : PathExpr} {constant item : Value L}
  {items before behind : List (Value L)}

theorem read_constant (h : literal.constant? = some constant) (item : Value L) :
    literal.read item = .ok (some constant) := by
  unfold PathExpr.read
  cases literal <;> cases h <;> rfl

theorem fieldEquals_object (label : L) (fields : Fields (Value L)) (key : String)
    (constant : Value L) : (Value.object label fields).fieldEquals key constant =
      (Fields.get? fields key).any (fun found => found.equal constant) := rfl

theorem sides_record (h : literal.constant? = some constant) (record : item.isRecord = true) :
    sides (.attribute key) (some literal) item = .ok (item.fieldEquals key constant) := by
  cases item with
  | object label fields =>
    unfold sides readRight
    rw [read_constant h, Operation.read_attribute, fieldEquals_object]
    cases Fields.get? fields key <;> rfl
  | _ => cases record

/-- **The record that a constraint on a field selects** is the first whose field equals the
literal. -/
theorem select_record (h : literal.constant? = some constant)
    (hbefore : ∀ other ∈ before, other.isRecord = true ∧ other.fieldEquals key constant = false)
    (record : item.isRecord = true) (equals : item.fieldEquals key constant = true) :
    select (.compare .eq) (.attribute key) (some literal) (before ++ item :: behind) =
      .ok (some before.length) := by
  refine select_eq_some_iff.mpr ⟨rfl, before, item, behind, rfl, rfl, ?_, ?_⟩
  · intro other hmem
    rw [sides_record h (hbefore other hmem).1, (hbefore other hmem).2]
  · rw [sides_record h record, equals]

theorem select_no_record (h : literal.constant? = some constant)
    (hitems : ∀ other ∈ items, other.isRecord = true ∧ other.fieldEquals key constant = false) :
    select (.compare .eq) (.attribute key) (some literal) items = .ok none := by
  refine select_eq_none_iff.mpr ⟨rfl, ?_⟩
  intro other hmem
  rw [sides_record h (hitems other hmem).1, (hitems other hmem).2]

/-- **The very same record is found first at its own place**, when a label tells containers apart:
one before it would have been selected instead. -/
theorem findIdx?_same [DecidableEq L]
    (references : ∀ a ∈ before ++ item :: behind, ∀ b ∈ before ++ item :: behind,
      a.isContainer = true → a.same b = true → a = b)
    (hbefore : ∀ other ∈ before, other.fieldEquals key constant = false)
    (record : item.isRecord = true) (equals : item.fieldEquals key constant = true) :
    (before ++ item :: behind).findIdx? (fun other => other.same item) = some before.length := by
  have others : before.findIdx? (fun other => other.same item) = none := by
    refine List.findIdx?_eq_none_iff.mpr (fun other hmem => Bool.eq_false_iff.mpr (fun same => ?_))
    have container : other.isContainer = true := by
      cases item with
      | object _ _ => cases other <;> first | rfl | cases same
      | _ => cases record
    have found : other = item := references other (List.mem_append_left _ hmem) item
      (List.mem_append_right _ List.mem_cons_self) container same
    rw [found] at hmem
    exact Bool.false_ne_true ((hbefore item hmem).symm.trans equals)
  have itself : item.same item = true := by
    cases item with
    | object label _ => exact decide_eq_true rfl
    | _ => cases record
  rw [List.findIdx?_append, others, List.findIdx?_cons, if_pos itself]
  simp

/-- A record that was found is looked for again at its own place. -/
theorem placeOfSame_record (record : item.isRecord = true) :
    Leaf.placeOfSame (before ++ item :: behind) before.length = before.length := by
  unfold Leaf.placeOfSame
  rw [getElem?_split]
  cases item with
  | object _ _ => rfl
  | _ => cases record

end

/-! ## The array -/

section
variable {fresh : L} {insertion : Insertion L} {label : L} {items before behind : List (Value L)}
  {item : Value L}

theorem insert_at_index {i : Int}
    (place : resolveIndex (before ++ item :: behind).length i = some before.length) :
    Leaf.insert fresh insertion (atIndex i) (.array label (before ++ item :: behind)) =
      .ok (.changed (.array fresh
        (insertion.position.placed insertion.items before item behind))) := by
  unfold Leaf.insert
  simp only [itemsFor, atIndex, singleIndex?, place, insertAt_eq_placed, bind, Except.bind]

theorem insert_out_of_range {i : Int} (place : resolveIndex items.length i = none) :
    Leaf.insert fresh insertion (atIndex i) (.array label items) =
      .ok (.changed (.array fresh (items ++ insertion.items))) := by
  unfold Leaf.insert
  simp only [itemsFor, atIndex, singleIndex?, place, bind, Except.bind]

/-- Items go to the place at which the item selected by a constraint is found again. -/
theorem insert_at_selected {left : PathExpr} {right : Option PathExpr} {place : Nat}
    (selected : select (.compare .eq) left right items = .ok (some place)) :
    Leaf.insert fresh insertion (equality left right) (.array label items) =
      .ok (.changed (.array fresh (Leaf.insertAt insertion.position
        (Leaf.placeOfSame items place) items insertion.items))) := by
  unfold Leaf.insert Leaf.anchorPlace
  simp only [itemsFor, equality, singleIndex?, singleConstraint?, selected, Except.map,
    Option.map_some, bind, Except.bind]

theorem insert_at_record {left : PathExpr} {right : Option PathExpr}
    (selected : select (.compare .eq) left right (before ++ item :: behind) =
      .ok (some before.length)) (record : item.isRecord = true) :
    Leaf.insert fresh insertion (equality left right) (.array label (before ++ item :: behind)) =
      .ok (.changed (.array fresh
        (insertion.position.placed insertion.items before item behind))) := by
  rw [insert_at_selected selected, placeOfSame_record record, insertAt_eq_placed]

end

/-! ## The whole value -/

theorem IsTest.sides_array {left : PathExpr} {right : Option PathExpr} (test : IsTest left right)
    (label : L) (items : List (Value L)) : sides left right (.array label items) ≠ .ok true := by
  intro hsides
  obtain ⟨value, hvalue, hiff⟩ := test.sides_iff (L := L)
  obtain ⟨found, hfound, hequal⟩ := (hiff _).mp hsides
  unfold PathExpr.read at hfound
  cases test with
  | current _ =>
    cases hfound
    rw [Value.equal_of_isContainer rfl hvalue] at hequal
    cases hequal
  | field _ _ => cases hfound

/-- An insertion turns the array that the steps read into one of other items.  The containers around
it are made anew, with the very same other children, and the steps read the new array there. -/
def Rearranges (fresh : L) (insertion : Insertion L) (steps : List PathExpr) (root : Value L)
    (label : L) (items rearranged : List (Value L)) : Prop :=
  ∃ frames, Route steps frames (.array label items) ∧ root = plug frames (.array label items) ∧
    (Operation.insert insertion).apply fresh root =
      .ok (.changed (plug (frames.map (Frame.renew fresh)) (.array fresh rearranged))) ∧
    readSegments steps (plug (frames.map (Frame.renew fresh)) (.array fresh rearranged)) =
      .ok (some (.array fresh rearranged))

section
variable {fresh : L} {insertion : Insertion L} {steps : List PathExpr} {last : PathExpr}
  {root : Value L} {label : L} {items : List (Value L)}

theorem rearranges_of_leaf
    (hpath : ofText insertion.anchor = .ok (.path (steps ++ [last])))
    (way : readSegments steps root = .ok (some (.array label items))) {rearranged : List (Value L)}
    (hleaf : Leaf.insert fresh insertion last (.array label items) =
      .ok (.changed (.array fresh rearranged))) :
    Rearranges fresh insertion steps root label items rearranged := by
  have segments : ∀ step ∈ steps, IsSegment step := (isSegment_of_path hpath).1
  have tests : ∀ left right, equality left right ∈ steps → IsTest left right :=
    isTest_of_path hpath
  obtain ⟨frames, route, rfl, truthy⟩ :=
    (reaches_iff_route segments).mp ((reaches_iff_read rfl segments).mpr way)
  have operation : ofText (Operation.insert insertion).path = .ok (.path (steps ++ [last])) := hpath
  -- No constraint has selected an array, so there is none right before it to keep.
  have route' : Route steps (frames.map (Frame.renew fresh)) (.array fresh rearranged) :=
    route.refilled rfl tests (fun left right hlast hsides => absurd hsides
      ((tests left right (List.mem_of_getLast? hlast)).sides_array label items))
  refine ⟨frames, route, rfl, ?_, route'.read⟩
  rw [Operation.apply_of_path operation, route.editParent_eq truthy]
  show (Leaf.insert fresh insertion last _).map _ = _
  rw [hleaf]
  rfl

/-- **Where an insertion puts its items**, given that the steps before the last segment of its
anchor read an array.  At an index, they go to the item at that place, and behind all others when
there is none.  At a constraint on a field, they go to the first record whose field equals the
literal, given that all before it are records; and the very value is kept when there is none.  They
are put in behind that item, before it or in its place, and all other items stay, once and in
their order.  The record is the one that the anchor reads; looked for by what it is, where labels
tell containers apart, it is found at the same place, whatever other items look like it. -/
theorem insert_places (hpath : ofText insertion.anchor = .ok (.path (steps ++ [last])))
    (way : readSegments steps root = .ok (some (.array label items))) :
    (∀ i, last = atIndex i →
        (resolveIndex items.length i = none →
          Rearranges fresh insertion steps root label items (items ++ insertion.items)) ∧
        ∀ before item behind, items = before ++ item :: behind →
          resolveIndex items.length i = some before.length →
          Rearranges fresh insertion steps root label items
            (insertion.position.placed insertion.items before item behind)) ∧
      ∀ key literal constant, last = equality (.attribute key) (some literal) →
        literal.constant? = some constant →
        ((∀ item ∈ items, item.isRecord = true ∧ item.fieldEquals key constant = false) →
          (Operation.insert insertion).apply fresh root =
            .ok (.kept (some (.anchorNotFound insertion.anchor)))) ∧
        ∀ before item behind, items = before ++ item :: behind →
          (∀ other ∈ before, other.isRecord = true ∧ other.fieldEquals key constant = false) →
          item.isRecord = true → item.fieldEquals key constant = true →
          Rearranges fresh insertion steps root label items
              (insertion.position.placed insertion.items before item behind) ∧
            last.read (.array label items) = .ok (some item) ∧
            ∀ [DecidableEq L], (∀ a ∈ items, ∀ b ∈ items,
                a.isContainer = true → a.same b = true → a = b) →
              items.findIdx? (fun other => other.same item) = some before.length := by
  constructor
  · rintro i rfl
    constructor
    · exact fun place => rearranges_of_leaf hpath way (insert_out_of_range place)
    · rintro before item behind rfl place
      exact rearranges_of_leaf hpath way (insert_at_index place)
  · rintro key literal constant rfl hliteral
    constructor
    · intro hitems
      have unselected := select_no_record hliteral hitems
      refine Operation.apply_kept_iff.mpr ⟨steps, _, hpath, .inl ⟨.array label items, ?_, ?_⟩⟩
      · exact (reaches_iff_read rfl (isSegment_of_path hpath).1).mpr way
      · exact ⟨rfl, rfl, ⟨label, items, rfl⟩, read_constraint_eq_none_iff.mpr unselected⟩
    · rintro before item behind rfl hbefore record equals
      have selected : select (.compare .eq) (.attribute key) (some literal)
          (before ++ item :: behind) = .ok (some before.length) :=
        select_record hliteral hbefore record equals
      have leads : Leads (equality (.attribute key) (some literal)) (.item label before behind)
          item := .constraint selected
      refine ⟨rearranges_of_leaf hpath way (insert_at_record selected record), leads.read, ?_⟩
      intro _ references
      exact findIdx?_same references (fun other hmem => (hbefore other hmem).2) record equals

/-- The lamp's room is the second.  What is put in before it goes behind the fan's. -/
theorem insert_places_lamp :
    let insertion : Insertion Nat := ⟨.before, "rooms[id==\"lamp\"]", [.string "new"]⟩
    let fan : Value Nat := .object 3 [("id", .string "fan")]
    let lamp : Value Nat :=
      .object 4 [("id", .string "lamp"), ("level", .number (.ofCount 1)), ("tags", .array 5 [])]
    ofText insertion.anchor = .ok (.path ([.attribute "rooms"] ++ [whereEqual "id" "lamp"])) ∧
      readSegments [.attribute "rooms"] Operation.lampRoot = .ok (some (.array 2 [fan, lamp])) ∧
      Rearranges 9 insertion [.attribute "rooms"] Operation.lampRoot 2 [fan, lamp]
        [fan, .string "new", lamp] ∧
      [fan, lamp].findIdx? (fun other => other.same lamp) = some 1 := by
  intro insertion fan lamp
  have hpath : ofText insertion.anchor =
      .ok (.path ([.attribute "rooms"] ++ [whereEqual "id" "lamp"])) :=
    Operation.ofText_room (by decide +kernel)
  have way : readSegments [.attribute "rooms"] Operation.lampRoot =
      .ok (some (.array 2 [fan, lamp])) := rfl
  obtain ⟨-, placed⟩ := (insert_places hpath way).2 "id" (.string "lamp") (.string "lamp") rfl rfl
  obtain ⟨rearranges, -, found⟩ := placed [fan] lamp [] rfl (by decide) rfl (by decide)
  exact ⟨hpath, way, rearranges, found (by decide)⟩

end

end DocumentStore
