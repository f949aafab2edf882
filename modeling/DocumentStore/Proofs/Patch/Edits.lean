import DocumentStore.Proofs.Path.Derivation
import DocumentStore.Proofs.Path.Route

/-!
# What an operation keeps

An operation that changes a value follows the path of its parent, edits the parent and makes the
containers on the way anew.  All children beside the way are the very same ones, and so are those
of the parent that are not addressed, added or taken away.

* `Operation.leaf` — what an operation does to the parent of its last segment.
* `Replaced`, `Operation.Edits` — what becomes of that parent.

Principal results: `apply_changed_iff` — the way of an operation.  `leaf_changed` — what each of the
seven operators makes of a parent.  `apply_keeps_others` — what is kept.
-/

set_option autoImplicit false

namespace DocumentStore

variable {L : Type} {fresh : L}

open PathExpr

/-! ## The way of an operation -/

/-- What an operation does to the parent of the last segment of its path. -/
def Operation.leaf (fresh : L) : Operation L → PathExpr → Value L → Except Fault (Edit L)
  | .set _ value => Leaf.set fresh value
  | .setIfMissing _ value => Leaf.setIfMissing fresh value
  | .unset _ => Leaf.unset fresh
  | .dec _ amount => Leaf.calculate fresh (fun current => current.sub? amount)
  | .inc _ amount => Leaf.calculate fresh (fun current => current.add? amount)
  | .diffMatchPatch _ patch => Leaf.patchText fresh patch
  | .insert insertion => Leaf.insert fresh insertion

namespace Operation

variable {operation : Operation L} {root out : Value L}

theorem apply_eq_editPath (fresh : L) (operation : Operation L) (root : Value L) :
    operation.apply fresh root = editPath fresh operation.path (operation.leaf fresh) root := by
  cases operation <;> rfl

theorem apply_of_path {steps : List PathExpr} {last : PathExpr}
    (h : ofText operation.path = .ok (.path (steps ++ [last]))) (fresh : L) (root : Value L) :
    operation.apply fresh root =
      editParent fresh operation.path (operation.leaf fresh last) steps root := by
  rw [apply_eq_editPath]
  unfold editPath
  simp only [h, bind, Except.bind, segments, List.getLast?_concat, List.dropLast_concat]

theorem exists_last {path : String} {expr : PathExpr} (h : ofText path = .ok expr) :
    ∃ steps last, expr = .path (steps ++ [last]) := by
  obtain ⟨tokens, segments, rfl, hwrites⟩ := ofText_sound h
  have hne : segments ≠ [] := by cases hwrites <;> exact List.cons_ne_nil _ _
  exact ⟨segments.dropLast, segments.getLast hne, by rw [List.dropLast_concat_getLast hne]⟩

theorem exists_path {edit : Edit L} (h : operation.apply fresh root = .ok edit) :
    ∃ steps last, ofText operation.path = .ok (.path (steps ++ [last])) := by
  cases hpath : ofText operation.path with
  | error fault =>
    rw [apply_eq_editPath] at h
    unfold editPath at h
    rw [hpath] at h
    cases h
  | ok expr =>
    obtain ⟨steps, last, rfl⟩ := exists_last hpath
    exact ⟨steps, last, rfl⟩

/-- **The way of an operation that changes a value**: down a route to the parent of its last
segment, and back through the frames made anew. -/
theorem apply_changed_iff :
    operation.apply fresh root = .ok (.changed out) ↔
      ∃ steps last frames parent new,
        ofText operation.path = .ok (.path (steps ++ [last])) ∧ Route steps frames parent ∧
          root = plug frames parent ∧ (steps ≠ [] → parent.isTruthy = true) ∧
          operation.leaf fresh last parent = .ok (.changed new) ∧
          out = plug (frames.map (Frame.renew fresh)) new := by
  constructor
  · intro h
    obtain ⟨steps, last, hpath⟩ := exists_path h
    rw [apply_of_path hpath] at h
    obtain ⟨frames, parent, new, way⟩ := editParent_changed_iff.mp h
    exact ⟨steps, last, frames, parent, new, hpath, way⟩
  · rintro ⟨steps, last, frames, parent, new, hpath, way⟩
    rw [apply_of_path hpath]
    exact editParent_changed_iff.mpr ⟨frames, parent, new, way⟩

end Operation

/-! ## The parent -/

/-- The child that a step leads to is replaced, in a container made anew. -/
def Replaced (fresh : L) (step : PathExpr) (old new parent out : Value L) : Prop :=
  ∃ frame : Frame L, Leads step frame old ∧ parent = frame.fill old ∧
    out = (frame.renew fresh).fill new

/-- Items go in at one place.  Only a replacement takes an item away: the one addressed, or, as
items that are no containers are told apart by value, one equal to it. -/
def Spliced (fresh : L) (last : PathExpr) (position : Position) (items : List (Value L))
    (parent out : Value L) : Prop :=
  ∃ label before gone behind, parent = .array label (before ++ gone ++ behind) ∧
    out = .array fresh (before ++ items ++ behind) ∧
    (gone = [] ∨ position = .replace ∧ ∃ item addressed, gone = [item] ∧
      last.read parent = .ok (some addressed) ∧ (item = addressed ∨ item.equal addressed = true))

/-- What an operation makes of the parent of its last segment. -/
def Operation.Edits (fresh : L) (last : PathExpr) (parent out : Value L) : Operation L → Prop
  | .set _ value => Written fresh value last parent out
  | .setIfMissing _ value => last.read parent = .ok none ∧ Written fresh value last parent out
  | .unset _ => ∃ key label fields, last = .attribute key ∧ Fields.get? fields key ≠ none ∧
      parent = .object label fields ∧
      out = .object fresh (fields.filter (fun field => field.1 ≠ key))
  | .dec _ amount => ∃ n result, n.sub? amount = some result ∧
      Replaced fresh last (.number n) (.number result) parent out
  | .inc _ amount => ∃ n result, n.add? amount = some result ∧
      Replaced fresh last (.number n) (.number result) parent out
  | .diffMatchPatch _ patch => ∃ text hunks, hunksOf patch.toList = .ok hunks ∧
      Replaced fresh last (.string text)
        (.string (String.ofList (applyHunks hunks text.toList).1)) parent out
  | .insert insertion => Spliced fresh last insertion.position insertion.items parent out

theorem replaced_of_rebuild {step : PathExpr} {old new parent out : Value L}
    (hread : step.read parent = .ok (some old))
    (h : Edit.rebuild fresh step new parent = .ok (.changed out)) :
    Replaced fresh step old new parent out := by
  obtain ⟨frame, rfl, leads⟩ := (isStep_of_rebuild h).leads hread
  rw [leads.rebuild fresh new] at h
  cases h
  exact ⟨frame, leads, rfl, rfl⟩

theorem calculate_changed {result? : Number → Option Number} {last : PathExpr}
    {parent out : Value L}
    (h : Leaf.calculate fresh result? last parent = .ok (.changed out)) :
    ∃ n result, result? n = some result ∧
      Replaced fresh last (.number n) (.number result) parent out := by
  unfold Leaf.calculate at h
  rw [bind_eq_ok] at h
  obtain ⟨found, hread, h⟩ := h
  split at h
  · rename_i n
    split at h
    · rename_i result hresult
      exact ⟨n, result, hresult, replaced_of_rebuild hread h⟩
    · cases h
  · cases h
  · cases h

theorem patchText_changed {patch : String} {last : PathExpr} {parent out : Value L}
    (h : Leaf.patchText fresh patch last parent = .ok (.changed out)) :
    ∃ text hunks, hunksOf patch.toList = .ok hunks ∧
      Replaced fresh last (.string text)
        (.string (String.ofList (applyHunks hunks text.toList).1)) parent out := by
  unfold Leaf.patchText at h
  rw [bind_eq_ok] at h
  obtain ⟨found, hread, h⟩ := h
  split at h
  · rename_i text
    split at h
    · cases h
    · rename_i hunks hhunks
      simp only at h
      split at h
      · cases h
      · exact ⟨text, hunks, hhunks, replaced_of_rebuild hread h⟩
  · cases h
  · cases h

theorem unset_changed {last : PathExpr} {parent out : Value L}
    (h : Leaf.unset fresh last parent = .ok (.changed out)) :
    ∃ key label fields, last = .attribute key ∧ Fields.get? fields key ≠ none ∧
      parent = .object label fields ∧
      out = .object fresh (fields.filter (fun field => field.1 ≠ key)) := by
  unfold Leaf.unset at h
  split at h
  · rename_i key
    split at h
    · rename_i label fields
      split at h
      · rename_i old hfound
        cases h
        refine ⟨key, label, fields, rfl, ?_, rfl, by rw [Fields.erase_eq_filter]⟩
        rw [hfound]
        exact Option.some_ne_none old
      · cases h
    · cases h
  · cases h

/-- Items inserted leave the others in their order, but for the one replaced. -/
theorem insertAt_splits (position : Position) (place : Nat) (items new : List (Value L)) :
    ∃ before gone behind, items = before ++ gone ++ behind ∧
      Leaf.insertAt position place items new = before ++ new ++ behind ∧
      (gone = [] ∨ position = .replace ∧ ∃ item, gone = [item] ∧ items[place]? = some item) := by
  cases position with
  | after =>
    exact ⟨items.take (place + 1), [], items.drop (place + 1), by simp, rfl, .inl rfl⟩
  | before => exact ⟨items.take place, [], items.drop place, by simp, rfl, .inl rfl⟩
  | replace =>
    refine ⟨items.take place, (items.drop place).take 1, items.drop (place + 1), ?_, rfl, ?_⟩
    · rw [← List.drop_drop, List.append_assoc, List.take_append_drop, List.take_append_drop]
    · rw [← List.head?_drop]
      cases items.drop place with
      | nil => exact .inl rfl
      | cons item _ => exact .inr ⟨rfl, item, rfl, rfl⟩

/-- The item at the place of the first of its equals is the item or one of these. -/
theorem placeOfSame_item {items : List (Value L)} {place : Nat} {item addressed : Value L}
    (hitem : items[Leaf.placeOfSame items place]? = some item)
    (haddressed : items[place]? = some addressed) :
    item = addressed ∨ item.equal addressed = true := by
  unfold Leaf.placeOfSame at hitem
  rw [haddressed] at hitem
  have first (h : items[items.findIdx (fun other => other.equal addressed)]? = some item) :
      item.equal addressed = true := by
    obtain ⟨hbound, rfl⟩ := List.getElem?_eq_some_iff.mp h
    exact List.findIdx_getElem (p := fun other : Value L => other.equal addressed)
  have itself (h : items[place]? = some item) : item = addressed := by
    rw [haddressed] at h
    exact (Option.some.inj h).symm
  cases addressed with
  | array _ _ => exact .inl (itself hitem)
  | object _ _ => exact .inl (itself hitem)
  | _ => exact .inr (first hitem)

/-- A place found by a constraint is that of the item read, or of the first of its equals. -/
theorem anchorPlace_some {last : PathExpr} {label : L} {items : List (Value L)} {place : Nat}
    (h : Leaf.anchorPlace last (.array label items) items = .ok (some place)) :
    ∃ found addressed, place = Leaf.placeOfSame items found ∧ items[found]? = some addressed ∧
      last.read (.array label items) = .ok (some addressed) := by
  unfold Leaf.anchorPlace singleConstraint? at h
  split at h
  · rename_i relation left right hconstraint
    split at hconstraint
    · cases hconstraint
      cases hselect : select relation left right items with
      | error fault => rw [hselect] at h; cases h
      | ok selected =>
        rw [hselect] at h
        obtain ⟨found, rfl, rfl⟩ := Option.map_eq_some_iff.mp (Except.ok.inj h)
        obtain ⟨-, before, addressed, behind, rfl, rfl, -⟩ := select_eq_some_iff.mp hselect
        have leads : Leads (.union [.constraint relation left right])
            (.item label before behind) addressed := .constraint hselect
        exact ⟨before.length, addressed, rfl, getElem?_split _ _ _, leads.read⟩
    · cases hconstraint
  · cases hread : last.read (.array label items) with
    | error fault => rw [hread] at h; cases h
    | ok found => rw [hread] at h; cases h

theorem insert_changed {insertion : Insertion L} {last : PathExpr} {parent out : Value L}
    (h : Leaf.insert fresh insertion last parent = .ok (.changed out)) :
    Spliced fresh last insertion.position insertion.items parent out := by
  unfold Leaf.insert itemsFor at h
  rw [bind_eq_ok] at h
  obtain ⟨items, hitems, h⟩ := h
  split at hitems
  · rename_i label found
    cases hitems
    have placed (place : Nat)
        (haddressed : ∀ item, items[place]? = some item → ∃ addressed,
          last.read (.array label items) = .ok (some addressed) ∧
            (item = addressed ∨ item.equal addressed = true)) :
        Spliced fresh last insertion.position insertion.items (.array label items)
          (.array fresh (Leaf.insertAt insertion.position place items insertion.items)) := by
      obtain ⟨before, gone, behind, hsplit, hinsert, hgone⟩ :=
        insertAt_splits insertion.position place items insertion.items
      refine ⟨label, before, gone, behind, by rw [hsplit], by rw [hinsert], ?_⟩
      rcases hgone with hnone | ⟨hposition, item, hone, hitem⟩
      · exact .inl hnone
      · obtain ⟨addressed, hread, hequal⟩ := haddressed item hitem
        exact .inr ⟨hposition, item, addressed, hone, hread, hequal⟩
    split at h
    · rename_i i hindex
      simp only at h
      split at h
      · rename_i place hplace
        cases h
        refine placed place ?_
        intro item hitem
        refine ⟨item, ?_, .inl rfl⟩
        unfold singleIndex? at hindex
        split at hindex
        · cases hindex
          unfold PathExpr.read readUnionTerms itemsFor
          simp only [bind, Except.bind, hplace, Option.bind_some, hitem]
        · cases hindex
      · cases h
        exact ⟨label, items, [], [], by simp, by simp, .inl rfl⟩
    · rw [bind_eq_ok] at h
      obtain ⟨place, hplace, h⟩ := h
      split at h
      · cases h
        obtain ⟨found, addressed, rfl, hfound, hread⟩ := anchorPlace_some hplace
        refine placed _ ?_
        intro item hitem
        exact ⟨addressed, hread, placeOfSame_item hitem hfound⟩
      · cases h
  · cases hitems

theorem setIfMissing_changed_iff {value : Value L} {last : PathExpr} {parent new : Value L} :
    Leaf.setIfMissing fresh value last parent = .ok (.changed new) ↔
      last.read parent = .ok none ∧ Written fresh value last parent new := by
  unfold Leaf.setIfMissing
  rw [bind_eq_ok]
  constructor
  · rintro ⟨found, hread, h⟩
    cases found with
    | none => exact ⟨hread, rebuild_changed_iff.mp h⟩
    | some found => cases h
  · rintro ⟨hread, written⟩
    exact ⟨none, hread, rebuild_changed_iff.mpr written⟩

/-- **What each operator makes of a parent.** -/
theorem leaf_changed {operation : Operation L} {last : PathExpr} {parent out : Value L}
    (h : operation.leaf fresh last parent = .ok (.changed out)) :
    operation.Edits fresh last parent out := by
  cases operation with
  | set path value => exact rebuild_changed_iff.mp h
  | setIfMissing path value => exact setIfMissing_changed_iff.mp h
  | unset path => exact unset_changed h
  | dec path amount => exact calculate_changed h
  | inc path amount => exact calculate_changed h
  | diffMatchPatch path patch => exact patchText_changed h
  | insert insertion => exact insert_changed h

namespace Operation

/-- **What an operation keeps.**  An operation that changes a value follows the steps before the
last segment of its path, down frames to a parent.  The value changed has the same frames, with the
very same children before and behind the way, labels included, in the same order and, in an object,
under the same keys; each is made anew, with the label `fresh`.  At their bottom stands what the
operator makes of the parent: one child replaced, added or taken away, or items put in, with the
others the very same and in their order. -/
theorem apply_keeps_others {operation : Operation L} {root out : Value L}
    (h : operation.apply fresh root = .ok (.changed out)) :
    ∃ steps last frames parent new,
      ofText operation.path = .ok (.path (steps ++ [last])) ∧ Route steps frames parent ∧
        root = plug frames parent ∧ out = plug (frames.map (Frame.renew fresh)) new ∧
        operation.Edits fresh last parent new := by
  obtain ⟨steps, last, frames, parent, new, hpath, route, hroot, -, hleaf, hout⟩ :=
    apply_changed_iff.mp h
  exact ⟨steps, last, frames, parent, new, hpath, route, hroot, hout, leaf_changed hleaf⟩

/-- A hall, and two rooms of which the second is the lamp's. -/
def lampRoot : Value Nat :=
  .object 0 [("hall", .array 1 []),
    ("rooms", .array 2 [.object 3 [("id", .string "fan")],
      .object 4 [("id", .string "lamp"), ("level", .number (.ofCount 1)), ("tags", .array 5 [])]])]

/-- The way to the lamp's room. -/
def lampSteps : List PathExpr := [.attribute "rooms", whereEqual "id" "lamp"]

theorem writes_room (id : String) :
    WritesConstraint [.identifier "id", .comparator .eq, .quoted id .double]
      (.constraint (.compare .eq) (.attribute "id") (some (.string id))) :=
  .compare .eq (.name (.identifier "id")) (.string id)

theorem ofText_room {path id : String} (h : (tokensOf path.toList).toOption =
    some [.identifier "rooms", .bracket .opening, .identifier "id", .comparator .eq,
      .quoted id .double, .bracket .closing]) :
    ofText path = .ok (.path ([.attribute "rooms"] ++ [whereEqual "id" id])) := by
  have path : WritesPath .needed
      [.identifier "rooms", .bracket .opening, .identifier "id", .comparator .eq,
        .quoted id .double, .bracket .closing]
      ([.attribute "rooms"] ++ [whereEqual "id" id]) :=
    .name (.identifier "rooms") (.union (.terms (.constraint (writes_room id)) .done) .done)
  exact ofText_of_writes h path

theorem ofText_lampField {path name : String} (h : (tokensOf path.toList).toOption =
    some [.identifier "rooms", .bracket .opening, .identifier "id", .comparator .eq,
      .quoted "lamp" .double, .bracket .closing, .joint .dot, .identifier name]) :
    ofText path = .ok (.path (lampSteps ++ [.attribute name])) := by
  have path : WritesPath .needed
      [.identifier "rooms", .bracket .opening, .identifier "id", .comparator .eq,
        .quoted "lamp" .double, .bracket .closing, .joint .dot, .identifier name]
      (lampSteps ++ [.attribute name]) :=
    .name (.identifier "rooms") (.union (.terms (.constraint (writes_room "lamp")) .done)
      (.name (.identifier name) .done))
  exact ofText_of_writes h path

theorem ofText_lampLevel :
    ofText "rooms[id==\"lamp\"].level" = .ok (.path (lampSteps ++ [.attribute "level"])) :=
  ofText_lampField (by decide +kernel)

theorem apply_keeps_others_lamp :
    let operation : Operation Nat := .inc "rooms[id==\"lamp\"].level" (.ofCount 5)
    let out : Value Nat :=
      .object 9 [("hall", .array 1 []),
        ("rooms", .array 9 [.object 3 [("id", .string "fan")], .object 9 [("id", .string "lamp"),
          ("level", .number (.ofCount 6)), ("tags", .array 5 [])]])]
    operation.apply 9 lampRoot = .ok (.changed out) ∧
      ∃ steps last frames parent new,
        ofText operation.path = .ok (.path (steps ++ [last])) ∧ Route steps frames parent ∧
          lampRoot = plug frames parent ∧ out = plug (frames.map (Frame.renew 9)) new ∧
          operation.Edits 9 last parent new := by
  intro operation out
  have hpath : ofText operation.path = .ok (.path (lampSteps ++ [.attribute "level"])) :=
    ofText_lampLevel
  have happly : operation.apply 9 lampRoot = .ok (.changed out) := by
    rw [apply_of_path hpath]
    rfl
  exact ⟨happly, apply_keeps_others happly⟩

end Operation

end DocumentStore
