import DocumentStore.Patch.Operation
import DocumentStore.Proofs.Json.Equality
import DocumentStore.Proofs.Success

/-!
# Editors of fields

An editor of a path of keys sees of an object only the field of the next key, and changes no other.
Where the paths of two editors part, they change different fields; above that they change the same
field, one after the other.  So they can be applied in either order.

* `outcomeOf`, `Exchanges` — the value that an editor leaves, and editors that can change places.
* `FieldEdit`, `AtField` — what becomes of one field, and the editors that see and change no other.
* `below`, `EditsAt` — editors of the value in a field, and the editors of a path of keys.

Principal results: `AtField.exchanges`, `exchanges_below` — editors of different fields, and editors
below the same one, can change places.  `EditsAt.exchanges` — so can editors of paths that part.
-/

set_option autoImplicit false

namespace DocumentStore

variable {L : Type}

/-! ## Outcomes -/

/-- The value after an edit. -/
def Edit.result (root : Value L) : Edit L → Value L
  | .kept _ => root
  | .changed value => value

/-- The value that an editor leaves. -/
def outcomeOf (editor : Value L → Except Fault (Edit L)) (root : Value L) :
    Except Fault (Value L) :=
  (editor root).map (Edit.result root)

theorem outcomeOf_eq_ok_iff {editor : Value L → Except Fault (Edit L)} {root out : Value L} :
    outcomeOf editor root = .ok out ↔ ∃ edit, editor root = .ok edit ∧ out = edit.result root := by
  unfold outcomeOf
  cases editor root with
  | error fault =>
    constructor
    · intro h
      cases h
    · rintro ⟨edit, h, -⟩
      cases h
  | ok edit =>
    constructor
    · intro h
      exact ⟨edit, rfl, (Except.ok.inj h).symm⟩
    · rintro ⟨edit', h, rfl⟩
      cases h
      rfl

theorem outcomeOf_error {editor : Value L → Except Fault (Edit L)} {root : Value L} {fault : Fault}
    (h : editor root = .error fault) : outcomeOf editor root = .error fault := by
  unfold outcomeOf
  rw [h]
  rfl

/-- Where the first editor and then the second succeed, so do they in the other order, and leave an
equal value. -/
def Exchanges (first second : Value L → Except Fault (Edit L)) (root : Value L) : Prop :=
  ∀ out, (outcomeOf first root >>= outcomeOf second) = .ok out →
    ∃ out', (outcomeOf second root >>= outcomeOf first) = .ok out' ∧ out.equal out' = true

/-! ## One field -/

/-- What becomes of one field of an object. -/
inductive FieldEdit (L : Type) where
  | keep (notice : Option Notice)
  | put (value : Value L)
  | drop

namespace FieldEdit

/-- The edit of an object in which one field is edited. -/
def edit (fresh : L) (key : String) (fields : Fields (Value L)) : FieldEdit L → Edit L
  | .keep notice => .kept notice
  | .put value => .changed (.object fresh (Fields.set key value fields))
  | .drop => .changed (.object fresh (Fields.erase fields key))

/-- The label of the object afterwards. -/
def label (fresh old : L) : FieldEdit L → L
  | .keep _ => old
  | _ => fresh

/-- The fields of the object afterwards. -/
def fields (key : String) (old : Fields (Value L)) : FieldEdit L → Fields (Value L)
  | .keep _ => old
  | .put value => Fields.set key value old
  | .drop => Fields.erase old key

/-- What is found in the field afterwards. -/
def found (old : Option (Value L)) : FieldEdit L → Option (Value L)
  | .keep _ => old
  | .put value => some value
  | .drop => none

theorem result_edit (edit : FieldEdit L) (fresh old : L) (key : String)
    (fields : Fields (Value L)) :
    (edit.edit fresh key fields).result (.object old fields) =
      .object (edit.label fresh old) (edit.fields key fields) := by
  cases edit <;> rfl

/-- **Only the field edited is found changed.** -/
theorem get?_fields (edit : FieldEdit L) (key other : String) (fields : Fields (Value L)) :
    Fields.get? (edit.fields key fields) other =
      if other = key then edit.found (Fields.get? fields key) else Fields.get? fields other := by
  by_cases h : other = key
  · subst h
    rw [if_pos rfl]
    cases edit with
    | keep _ => rfl
    | put value => exact Fields.get?_set_self other value fields
    | drop => exact (Fields.get?_erase fields other other).trans (if_pos rfl)
  · rw [if_neg h]
    cases edit with
    | keep _ => rfl
    | put value => exact Fields.get?_set_ne h value fields
    | drop => exact (Fields.get?_erase fields key other).trans (if_neg h)

theorem nodup_fields (edit : FieldEdit L) (key : String) {fields : Fields (Value L)}
    (distinct : (Fields.keys fields).Nodup) : (Fields.keys (edit.fields key fields)).Nodup := by
  cases edit with
  | keep _ => exact distinct
  | put value => exact Fields.nodup_set distinct key value
  | drop => exact Fields.nodup_erase distinct key

end FieldEdit

/-- The editor edits objects only.  It sees of an object the field of one key, and does to it what
`act` says. -/
structure AtField (fresh : L) (key : String)
    (act : Option (Value L) → Except Fault (FieldEdit L))
    (editor : Value L → Except Fault (Edit L)) : Prop where
  isObject : ∀ root edit, editor root = .ok edit → ∃ label fields, root = .object label fields
  edits : ∀ label fields, editor (.object label fields) =
    (act (Fields.get? fields key)).map (FieldEdit.edit fresh key fields)

/-- What is done to a field keeps distinct keys. -/
def KeepsDistinct (act : Option (Value L) → Except Fault (FieldEdit L)) : Prop :=
  ∀ old edit, act old = .ok edit → (∀ value, old = some value → value.DistinctKeys) →
    ∀ value, edit.found old = some value → value.DistinctKeys

namespace AtField

variable {fresh : L} {key : String} {act : Option (Value L) → Except Fault (FieldEdit L)}
  {editor : Value L → Except Fault (Edit L)}

theorem outcome_isObject (here : AtField fresh key act editor) {root out : Value L}
    (h : outcomeOf editor root = .ok out) : ∃ label fields, root = .object label fields := by
  obtain ⟨edit, hedit, -⟩ := outcomeOf_eq_ok_iff.mp h
  exact here.isObject root edit hedit

theorem outcome_object (here : AtField fresh key act editor) {fields : Fields (Value L)}
    {edit : FieldEdit L} (h : act (Fields.get? fields key) = .ok edit) (label : L) :
    outcomeOf editor (.object label fields) =
      .ok (.object (edit.label fresh label) (edit.fields key fields)) := by
  refine outcomeOf_eq_ok_iff.mpr ⟨edit.edit fresh key fields, ?_, ?_⟩
  · rw [here.edits, h]
    rfl
  · rw [edit.result_edit]

theorem outcome_error (here : AtField fresh key act editor) {fields : Fields (Value L)}
    {fault : Fault} (h : act (Fields.get? fields key) = .error fault) (label : L) :
    outcomeOf editor (.object label fields) = .error fault := by
  apply outcomeOf_error
  rw [here.edits, h]
  rfl

/-- What was done to the field of an object of which one is left. -/
theorem exists_act (here : AtField fresh key act editor) {label : L} {fields : Fields (Value L)}
    {out : Value L} (h : outcomeOf editor (.object label fields) = .ok out) :
    ∃ edit, act (Fields.get? fields key) = .ok edit ∧
      out = .object (edit.label fresh label) (edit.fields key fields) := by
  obtain ⟨done, hdone, rfl⟩ := outcomeOf_eq_ok_iff.mp h
  rw [here.edits] at hdone
  cases hact : act (Fields.get? fields key) with
  | error fault => rw [hact] at hdone; cases hdone
  | ok edit =>
    rw [hact] at hdone
    cases hdone
    exact ⟨edit, rfl, edit.result_edit fresh label key fields⟩

theorem outcome_isTruthy (here : AtField fresh key act editor) {root out : Value L}
    (h : outcomeOf editor root = .ok out) : out.isTruthy = true := by
  obtain ⟨label, fields, rfl⟩ := here.outcome_isObject h
  obtain ⟨edit, -, rfl⟩ := here.exists_act h
  rfl

theorem distinct (here : AtField fresh key act editor) (keeps : KeepsDistinct act)
    {root out : Value L} (h : outcomeOf editor root = .ok out) (hroot : root.DistinctKeys) :
    out.DistinctKeys := by
  obtain ⟨label, fields, rfl⟩ := here.outcome_isObject h
  obtain ⟨edit, hact, rfl⟩ := here.exists_act h
  rw [Value.distinctKeys_object_iff] at hroot ⊢
  refine ⟨edit.nodup_fields key hroot.1, ?_⟩
  intro other child hfound
  rw [edit.get?_fields] at hfound
  by_cases hother : other = key
  · rw [if_pos hother] at hfound
    exact keeps _ edit hact (fun value => hroot.2 key value) child hfound
  · rw [if_neg hother] at hfound
    exact hroot.2 other child hfound

/-- **Editors of different fields can change places.** -/
theorem exchanges {fresh' : L} {key' : String}
    {act' : Option (Value L) → Except Fault (FieldEdit L)}
    {editor' : Value L → Except Fault (Edit L)} (here : AtField fresh key act editor)
    (there : AtField fresh' key' act' editor') (keeps : KeepsDistinct act)
    (keeps' : KeepsDistinct act') (apart : key ≠ key') {root : Value L}
    (hroot : root.DistinctKeys) : Exchanges editor editor' root := by
  intro out h
  rw [bind_eq_ok] at h
  obtain ⟨mid, hmid, hout⟩ := h
  have hdistinct : out.DistinctKeys := there.distinct keeps' hout (here.distinct keeps hmid hroot)
  obtain ⟨label, fields, rfl⟩ := here.outcome_isObject hmid
  obtain ⟨edit, hact, rfl⟩ := here.exists_act hmid
  obtain ⟨edit', hact', rfl⟩ := there.exists_act hout
  -- Each sees the same field in either order, since the other edits another one.
  rw [edit.get?_fields, if_neg (Ne.symm apart)] at hact'
  have hact_after : act (Fields.get? (edit'.fields key' fields) key) = .ok edit := by
    rw [edit'.get?_fields, if_neg apart, hact]
  have hmid' := there.outcome_object hact' label
  have hout' := here.outcome_object hact_after (edit'.label fresh' label)
  refine ⟨_, bind_eq_ok.mpr ⟨_, hmid', hout'⟩, ?_⟩
  rw [Value.distinctKeys_object_iff] at hroot hdistinct
  refine Value.equal_objects hdistinct.1
    (edit.nodup_fields key (edit'.nodup_fields key' hroot.1)) ?_ _ _
  intro other
  have same : Fields.get? (edit.fields key (edit'.fields key' fields)) other =
      Fields.get? (edit'.fields key' (edit.fields key fields)) other := by
    simp only [FieldEdit.get?_fields, if_neg apart, if_neg (Ne.symm apart)]
    by_cases hother : other = key
    · rw [if_pos hother, if_neg (fun hother' => apart (hother.symm.trans hother')), if_pos hother]
    · rw [if_neg hother, if_neg hother]
  rw [same]
  exact sameFound_self (fun value => hdistinct.2 other value)

end AtField

/-! ## Below one field -/

/-- What a field becomes when the value in it is edited. -/
def Edit.inField : Edit L → FieldEdit L
  | .kept notice => .keep notice
  | .changed value => .put value

/-- What is done to a field where the value in it is edited, if it is there and counts as true. -/
def below (notice : Notice) (editor : Value L → Except Fault (Edit L)) :
    Option (Value L) → Except Fault (FieldEdit L)
  | some child =>
    if child.isTruthy then (editor child).map Edit.inField else .ok (.keep (some notice))
  | none => .ok (.keep (some notice))

section below

variable {fresh label : L} {key : String} {notice : Notice} {fields : Fields (Value L)}
  {inner editor : Value L → Except Fault (Edit L)}

/-- Where there is nothing to edit in the field, the object is kept. -/
theorem outcome_still (here : AtField fresh key (below notice inner) editor)
    (still : ∀ child, Fields.get? fields key = some child → child.isTruthy = false) :
    outcomeOf editor (.object label fields) = .ok (.object label fields) := by
  have keep : below notice inner (Fields.get? fields key) = .ok (.keep (some notice)) := by
    unfold below
    split
    · rename_i child hfound
      rw [still child hfound]
      rfl
    · rfl
  exact here.outcome_object keep label

theorem inField_fields (edit : Edit L) {child : Value L}
    (h : Fields.get? fields key = some child) :
    edit.inField.fields key fields = Fields.set key (edit.result child) fields := by
  cases edit with
  | kept _ => exact (Fields.set_found h).symm
  | changed _ => rfl

/-- What is left of an object when the value in a field is edited. -/
theorem outcome_below (label : L) (here : AtField fresh key (below notice inner) editor)
    {child : Value L} (hfound : Fields.get? fields key = some child)
    (htruthy : child.isTruthy = true) {new : Value L} (h : outcomeOf inner child = .ok new) :
    ∃ label', outcomeOf editor (.object label fields) =
      .ok (.object label' (Fields.set key new fields)) := by
  obtain ⟨edit, hedit, rfl⟩ := outcomeOf_eq_ok_iff.mp h
  have put : below notice inner (Fields.get? fields key) = .ok edit.inField := by
    unfold below
    simp only [hfound, htruthy, if_true, hedit, Except.map]
  refine ⟨edit.inField.label fresh label, ?_⟩
  rw [here.outcome_object put label, inField_fields edit hfound]

theorem outcome_inner (here : AtField fresh key (below notice inner) editor) {child : Value L}
    (hfound : Fields.get? fields key = some child) (htruthy : child.isTruthy = true)
    {out : Value L} (h : outcomeOf editor (.object label fields) = .ok out) :
    ∃ label' new, outcomeOf inner child = .ok new ∧
      out = .object label' (Fields.set key new fields) := by
  obtain ⟨edit, hact, rfl⟩ := here.exists_act h
  unfold below at hact
  simp only [hfound, htruthy, if_true] at hact
  cases hedit : inner child with
  | error fault => rw [hedit] at hact; cases hact
  | ok inside =>
    rw [hedit] at hact
    cases hact
    exact ⟨_, inside.result child, outcomeOf_eq_ok_iff.mpr ⟨inside, hedit, rfl⟩,
      by rw [inField_fields inside hfound]⟩

theorem keepsDistinct_below
    (h : ∀ root out, outcomeOf inner root = .ok out → root.DistinctKeys → out.DistinctKeys) :
    KeepsDistinct (below notice inner) := by
  intro old edit hact hold value hvalue
  unfold below at hact
  split at hact
  · rename_i child
    split at hact
    · cases hedit : inner child with
      | error fault => rw [hedit] at hact; cases hact
      | ok inside =>
        rw [hedit] at hact
        cases hact
        have hresult : value = inside.result child := by
          cases inside <;> exact (Option.some.inj hvalue).symm
        rw [hresult]
        exact h child _ (outcomeOf_eq_ok_iff.mpr ⟨inside, hedit, rfl⟩) (hold child rfl)
    · cases hact
      exact hold value hvalue
  · cases hact
    exact hold value hvalue

/-- **Editors below one field can change places** when the editors of its value can. -/
theorem exchanges_below {fresh' : L} {notice' : Notice}
    {inner' editor' : Value L → Except Fault (Edit L)}
    (here : AtField fresh key (below notice inner) editor)
    (there : AtField fresh' key (below notice' inner') editor')
    (truthy : ∀ child new, outcomeOf inner child = .ok new → new.isTruthy = true)
    (truthy' : ∀ child new, outcomeOf inner' child = .ok new → new.isTruthy = true)
    (hinner : ∀ child : Value L, child.DistinctKeys → Exchanges inner inner' child)
    {root : Value L} (hroot : root.DistinctKeys) : Exchanges editor editor' root := by
  intro out h
  rw [bind_eq_ok] at h
  obtain ⟨mid, hmid, hout⟩ := h
  obtain ⟨label, fields, rfl⟩ := here.outcome_isObject hmid
  by_cases still : ∀ child, Fields.get? fields key = some child → child.isTruthy = false
  · -- Neither finds anything to edit.
    rw [outcome_still here still] at hmid
    cases hmid
    rw [outcome_still there still] at hout
    cases hout
    exact ⟨_, bind_eq_ok.mpr ⟨_, outcome_still there still, outcome_still here still⟩,
      hroot.equal_self⟩
  · simp only [Classical.not_forall, Bool.not_eq_false] at still
    obtain ⟨child, hfound, htruthy⟩ := still
    have refound (new : Value L) : Fields.get? (Fields.set key new fields) key = some new :=
      Fields.get?_set_self key new fields
    obtain ⟨midLabel, midChild, hmidChild, rfl⟩ := outcome_inner here hfound htruthy hmid
    obtain ⟨outLabel, outChild, houtChild, rfl⟩ :=
      outcome_inner there (refound midChild) (truthy child midChild hmidChild) hout
    rw [Value.distinctKeys_object_iff] at hroot
    obtain ⟨outChild', hexchanged, hequal⟩ := hinner child (hroot.2 key child hfound) outChild
      (bind_eq_ok.mpr ⟨midChild, hmidChild, houtChild⟩)
    obtain ⟨midChild', hmidChild', houtChild'⟩ := bind_eq_ok.mp hexchanged
    obtain ⟨midLabel', hmid'⟩ := outcome_below label there hfound htruthy hmidChild'
    obtain ⟨outLabel', hout'⟩ := outcome_below midLabel' here (refound midChild')
      (truthy' child midChild' hmidChild') houtChild'
    refine ⟨_, bind_eq_ok.mpr ⟨_, hmid', hout'⟩, ?_⟩
    rw [Fields.set_set, Fields.set_set]
    refine Value.equal_objects (Fields.nodup_set hroot.1 key outChild)
      (Fields.nodup_set hroot.1 key outChild') ?_ _ _
    intro other
    by_cases hother : other = key
    · subst hother
      rw [refound, refound]
      exact .found hequal
    · rw [Fields.get?_set_ne hother, Fields.get?_set_ne hother]
      exact sameFound_self (fun value => hroot.2 other value)

end below

/-! ## Editors of paths -/

/-- The editor edits the field that the keys lead to, through fields that hold objects. -/
inductive EditsAt (fresh : L) : List String → (Value L → Except Fault (Edit L)) → Prop
  | field {key : String} {act : Option (Value L) → Except Fault (FieldEdit L)}
    {editor : Value L → Except Fault (Edit L)} (here : AtField fresh key act editor)
    (keeps : KeepsDistinct act) : EditsAt fresh [key] editor
  | within {key : String} {keys : List String} {notice : Notice}
    {inner editor : Value L → Except Fault (Edit L)} (under : EditsAt fresh keys inner)
    (here : AtField fresh key (below notice inner) editor) : EditsAt fresh (key :: keys) editor

namespace EditsAt

variable {fresh fresh' : L} {keys keys' : List String}
  {editor editor' : Value L → Except Fault (Edit L)}

theorem atField {key : String} (edits : EditsAt fresh (key :: keys) editor) :
    ∃ act, AtField fresh key act editor ∧ KeepsDistinct act := by
  generalize hpath : key :: keys = path at edits
  induction edits generalizing key keys with
  | field here keeps =>
    cases hpath
    exact ⟨_, here, keeps⟩
  | @within _ inside _ inner _ under here ih =>
    cases hpath
    refine ⟨_, here, keepsDistinct_below ?_⟩
    cases inside with
    | nil => cases under
    | cons next rest =>
      obtain ⟨act, hat, keeps⟩ := ih rfl
      exact fun root out => hat.distinct keeps

theorem isTruthy (edits : EditsAt fresh keys editor) {root out : Value L}
    (h : outcomeOf editor root = .ok out) : out.isTruthy = true := by
  cases edits with
  | field here _ => exact here.outcome_isTruthy h
  | within _ here => exact here.outcome_isTruthy h

/-- **Editors of paths that part can change places.** -/
theorem exchanges (edits : EditsAt fresh keys editor) (edits' : EditsAt fresh' keys' editor')
    (hpart : ¬ keys <+: keys') (hpart' : ¬ keys' <+: keys) {root : Value L}
    (hroot : root.DistinctKeys) : Exchanges editor editor' root := by
  induction edits generalizing keys' editor' root with
  | @field key act editor here keeps =>
    cases keys' with
    | nil => exact absurd List.nil_prefix hpart'
    | cons key' rest' =>
      have apart : key ≠ key' := by
        rintro rfl
        exact hpart (List.cons_prefix_cons.mpr ⟨rfl, List.nil_prefix⟩)
      obtain ⟨act', there, keeps'⟩ := edits'.atField
      exact here.exchanges there keeps keeps' apart hroot
  | @within key rest notice inner editor under here ih =>
    cases edits' with
    | @field key' act' _ there keeps' =>
      have apart : key ≠ key' := by
        rintro rfl
        exact hpart' (List.cons_prefix_cons.mpr ⟨rfl, List.nil_prefix⟩)
      obtain ⟨act, here, keeps⟩ := (EditsAt.within under here).atField
      exact here.exchanges there keeps keeps' apart hroot
    | @within key' rest' notice' inner' _ under' there =>
      by_cases same : key = key'
      · subst same
        rw [List.cons_prefix_cons] at hpart hpart'
        refine exchanges_below here there (fun _ _ => under.isTruthy) (fun _ _ => under'.isTruthy)
          (fun child hchild => ?_) hroot
        exact ih under' (fun h => hpart ⟨rfl, h⟩) (fun h => hpart' ⟨rfl, h⟩) hchild
      · obtain ⟨act, hat, keeps⟩ := (EditsAt.within under here).atField
        obtain ⟨act', hat', keeps'⟩ := (EditsAt.within under' there).atField
        exact hat.exchanges hat' keeps keeps' same hroot

end EditsAt

end DocumentStore
