import DocumentStore.Path.Lookup

/-!
# Operations

One operation edits the value at one path.  The way to the addressed parent is followed first;
when a step of it is missing or counts as false, the value is left alone and that is told.  Else
the parent is edited and the containers on the way are made anew, every other child kept.

* `Operation` — the seven operators with their arguments.
* `Edit` — the value kept as it is, with or without a notice, or a value changed.
* `editParent` — the way to the parent and back.
* `Operation.apply` — an operation on a value.
-/

set_option autoImplicit false

namespace DocumentStore

/-- Where new items go: behind the addressed item, before it, or in its place. -/
inductive Position where
  | after
  | before
  | replace
  deriving DecidableEq

/-- The name of a position, as a patch writes it. -/
def Position.name : Position → String
  | .after => "after"
  | .before => "before"
  | .replace => "replace"

/-- Items to insert, and the path of the item they go to. -/
structure Insertion (L : Type) where
  position : Position
  anchor : String
  items : List (Value L)

/-- One operator of a patch. -/
inductive Operation (L : Type) where
  | set (path : String) (value : Value L)
  | setIfMissing (path : String) (value : Value L)
  | unset (path : String)
  | dec (path : String) (amount : Number)
  | inc (path : String) (amount : Number)
  | diffMatchPatch (path : String) (patch : String)
  | insert (insertion : Insertion L)

/-- What an edit does to a value. -/
inductive Edit (L : Type) where
  /-- Nothing is written; the result is the very input. -/
  | kept (notice : Option Notice)
  | changed (value : Value L)

namespace Operation

variable {L : Type}

/-- The operator. -/
def kind : Operation L → OperatorKind
  | .set _ _ => .set
  | .setIfMissing _ _ => .setIfMissing
  | .unset _ => .unset
  | .dec _ _ => .dec
  | .inc _ _ => .inc
  | .diffMatchPatch _ _ => .diffMatchPatch
  | .insert _ => .insert

/-- The path that is edited. -/
def path : Operation L → String
  | .set path _ => path
  | .setIfMissing path _ => path
  | .unset path => path
  | .dec path _ => path
  | .inc path _ => path
  | .diffMatchPatch path _ => path
  | .insert insertion => insertion.anchor

end Operation

namespace Edit

variable {L : Type}

/-- A container with a step written; when no item is selected, a copy of the container. -/
def rebuild (fresh : L) (step : PathExpr) (new parent : Value L) : Except Fault (Edit L) := do
  match ← step.write fresh new parent with
  | some value => .ok (.changed value)
  | none => .ok (.changed (parent.shallowCopy fresh))

end Edit

/-- Follows the steps to a parent, edits it, and rebuilds the containers on the way. -/
def editParent {L : Type} (fresh : L) (path : String)
    (leaf : Value L → Except Fault (Edit L)) :
    List PathExpr → Value L → Except Fault (Edit L)
  | [], parent => leaf parent
  | step :: rest, value => do
    match ← step.read value with
    | some child =>
      if child.isTruthy then
        match ← editParent fresh path leaf rest child with
        | .changed child => Edit.rebuild fresh step child value
        | .kept notice => .ok (.kept notice)
      else .ok (.kept (some (.segmentNotFound path step)))
    | none => .ok (.kept (some (.segmentNotFound path step)))

namespace Leaf

variable {L : Type}

/-- Writes a value at the last segment. -/
def set (fresh : L) (new : Value L) (last : PathExpr) (parent : Value L) :
    Except Fault (Edit L) :=
  Edit.rebuild fresh last new parent

/-- Writes a value at the last segment where there is none. -/
def setIfMissing (fresh : L) (new : Value L) (last : PathExpr) (parent : Value L) :
    Except Fault (Edit L) := do
  match ← last.read parent with
  | some _ => .ok (.kept none)
  | none => Edit.rebuild fresh last new parent

/-- Takes an attribute away. -/
def unset (fresh : L) (last : PathExpr) (parent : Value L) : Except Fault (Edit L) :=
  match last with
  | .attribute name =>
    match parent with
    | .object _ fields =>
      match Fields.get? fields name with
      | some _ => .ok (.changed (.object fresh (Fields.erase fields name)))
      | none => .ok (.kept none)
    | _ => .error (.notARecord .unset)
  | other => .error (.unsupportedExpression (.unsetOf other))

/-- Replaces the number at the last segment by the result of a calculation. -/
def calculate (fresh : L) (result? : Number → Option Number) (last : PathExpr)
    (parent : Value L) : Except Fault (Edit L) := do
  match ← last.read parent with
  | some (.number current) =>
    match result? current with
    | some result => Edit.rebuild fresh last (.number result) parent
    | none => .error (.typeMismatch .finiteNumber (some .number))
  | some other => .error (.typeMismatch .number (some other.kind))
  | none => .error (.typeMismatch .number none)

/-- Patches the text at the last segment. -/
def patchText (fresh : L) (patch : String) (last : PathExpr) (parent : Value L) :
    Except Fault (Edit L) := do
  match ← last.read parent with
  | some (.string current) =>
    match hunksOf patch.toList with
    | .error problem => .error (.badTextPatch problem)
    | .ok hunks =>
      let patched := (applyHunks hunks current.toList).1
      if patched = current.toList then .ok (.kept none)
      else Edit.rebuild fresh last (.string (String.ofList patched)) parent
  | some other => .error (.typeMismatch .string (some other.kind))
  | none => .error (.typeMismatch .string none)

/-- The first place in `items` of the item found at `place`.  A container is only itself; any
other item is the first one equal to it. -/
def placeOfSame (items : List (Value L)) (place : Nat) : Nat :=
  match items[place]? with
  | some (.array _ _) => place
  | some (.object _ _) => place
  | some item => items.findIdx (fun other => other.equal item)
  | none => place

/-- Items with new ones at a place. -/
def insertAt (position : Position) (place : Nat) (items new : List (Value L)) : List (Value L) :=
  match position with
  | .after => items.take (place + 1) ++ new ++ items.drop (place + 1)
  | .before => items.take place ++ new ++ items.drop place
  | .replace => items.take place ++ new ++ items.drop (place + 1)

/-- The place in `items` that an expression other than a single index addresses. -/
def anchorPlace (last : PathExpr) (parent : Value L) (items : List (Value L)) :
    Except Fault (Option Nat) :=
  match last.singleConstraint? with
  | some (relation, left, right) =>
    (PathExpr.select relation left right items).map (Option.map (placeOfSame items))
  | none => (last.read parent).map (fun _ => none)

/-- Inserts items at the item that the last segment addresses.  An index out of range appends. -/
def insert (fresh : L) (insertion : Insertion L) (last : PathExpr) (parent : Value L) :
    Except Fault (Edit L) := do
  let items ← itemsFor .insert parent
  match last.singleIndex? with
  | some index =>
    let inserted := match resolveIndex items.length index with
      | some place => insertAt insertion.position place items insertion.items
      | none => items ++ insertion.items
    .ok (.changed (.array fresh inserted))
  | none =>
    match ← anchorPlace last parent items with
    | some place =>
      .ok (.changed (.array fresh (insertAt insertion.position place items insertion.items)))
    | none => .ok (.kept (some (.anchorNotFound insertion.anchor)))

end Leaf

/-- Edits the parent of the last segment of a path. -/
def editPath {L : Type} (fresh : L) (path : String)
    (leaf : PathExpr → Value L → Except Fault (Edit L)) (root : Value L) :
    Except Fault (Edit L) := do
  let expr ← PathExpr.ofText path
  match expr.segments.getLast? with
  | some last => editParent fresh path (leaf last) expr.segments.dropLast root
  | none => .ok (.kept none)

/-- An operation on a value.  The containers made carry the given label. -/
def Operation.apply {L : Type} (fresh : L) (operation : Operation L) (root : Value L) :
    Except Fault (Edit L) :=
  editPath fresh operation.path (match operation with
    | .set _ value => Leaf.set fresh value
    | .setIfMissing _ value => Leaf.setIfMissing fresh value
    | .unset _ => Leaf.unset fresh
    | .dec _ amount => Leaf.calculate fresh (fun current => current.sub? amount)
    | .inc _ amount => Leaf.calculate fresh (fun current => current.add? amount)
    | .diffMatchPatch _ patch => Leaf.patchText fresh patch
    | .insert insertion => Leaf.insert fresh insertion) root

end DocumentStore
