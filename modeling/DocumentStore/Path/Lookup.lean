import DocumentStore.Fault

/-!
# Reading and writing at paths

Reading follows a path from value to value.  What is missing is no fault; a value of the wrong
kind is.  Writing replaces one step: an attribute of an object, an item of an array by index, or
the first item that an equality constraint selects.

* `resolveIndex` — the place of an index; a negative one counts from the end.
* `PathExpr.read` — the value that a path addresses.
* `PathExpr.write` — a container with one step written.
-/

set_option autoImplicit false

namespace DocumentStore

/-- The place that an index addresses among `length` items; a negative one counts from the end. -/
def resolveIndex (length : Nat) (index : Int) : Option Nat :=
  let place := if index < 0 then (length : Int) + index else index
  if 0 ≤ place ∧ place < length then some place.toNat else none

/-- The value of a path number: a double that is no number is null. -/
def numberValue {L : Type} (x : Binary64) : Value L :=
  match Number.ofBinary64? x with
  | some n => .number n
  | none => .null

/-- Whether the left side of a constraint is there and equals the right side. -/
def sidesMatch {L : Type} (left right : Option (Value L)) : Bool :=
  match left, right with
  | some a, some b => a.equal b
  | _, _ => false

/-- The place, counted from `i`, of the first item whose sides match. -/
def firstMatch {L : Type} (sides : Value L → Except Fault Bool) (i : Nat) :
    List (Value L) → Except Fault (Option Nat)
  | [] => .ok none
  | item :: rest => do
    if ← sides item then .ok (some i) else firstMatch sides (i + 1) rest

/-- Whether a constraint can select an item: only equality with a right side can. -/
def selectable (relation : Relation) (hasRight : Bool) : Except Fault Unit :=
  if relation = .compare .eq then
    if hasRight then .ok () else .error (.unsupportedExpression .equalityWithoutRight)
  else .error (.unsupportedRelation relation)

/-- The items of an array, or the fault of an access to anything else. -/
def itemsFor {L : Type} (access : Access) (value : Value L) : Except Fault (List (Value L)) :=
  match value with
  | .array _ items => .ok items
  | _ => .error (.notAnArray access)

namespace PathExpr

variable {L : Type}

mutual

/-- The value that a path addresses; `none` when it is missing. -/
def read : PathExpr → Value L → Except Fault (Option (Value L))
  | .attribute name, value =>
    match value with
    | .object _ fields => .ok (Fields.get? fields name)
    | _ => .error (.notARecord .get)
  | .union terms, value => readUnionTerms terms value
  | .path segments, value => readSegments segments value
  | .alias, value => .ok (some value)
  | .string s, _ => .ok (some (.string s))
  | .number x, _ => .ok (some (numberValue x))
  | .boolean b, _ => .ok (some (.bool b))
  | .index i, _ => .error (.unsupportedExpression (.expression (.index i)))
  | .range first last step, _ =>
    .error (.unsupportedExpression (.expression (.range first last step)))
  | .constraint relation left right, _ =>
    .error (.unsupportedExpression (.expression (.constraint relation left right)))
  | .recursive term, _ => .error (.unsupportedExpression (.expression (.recursive term)))

/-- The item that a union addresses. -/
def readUnionTerms (terms : List PathExpr) (value : Value L) : Except Fault (Option (Value L)) :=
  match terms with
  | [.index i] => do
    let items ← itemsFor .get value
    .ok ((resolveIndex items.length i).bind (fun place => items[place]?))
  | [.constraint relation left right] => do
    let items ← itemsFor .get value
    selectable relation right.isSome
    let place ← firstMatch (fun item => do
      let a ← read left item
      let b ← readRight right item
      .ok (sidesMatch a b)) 0 items
    .ok (place.bind (fun place => items[place]?))
  | terms => .error (.unsupportedExpression (.expression (.union terms)))

/-- The value of the right side of a constraint. -/
def readRight : Option PathExpr → Value L → Except Fault (Option (Value L))
  | some right, value => read right value
  | none, _ => .ok none

/-- The value behind segments, one after the other. -/
def readSegments : List PathExpr → Value L → Except Fault (Option (Value L))
  | [], value => .ok (some value)
  | segment :: rest, value => do
    match ← read segment value with
    | some next => readSegments rest next
    | none => .ok none

end

/-- The place of the item that a constraint selects. -/
def select (relation : Relation) (left : PathExpr) (right : Option PathExpr)
    (items : List (Value L)) : Except Fault (Option Nat) := do
  selectable relation right.isSome
  firstMatch (fun item => do
    let a ← read left item
    let b ← readRight right item
    .ok (sidesMatch a b)) 0 items

/-- A container with a value written at one step; `none` when no item is selected.  The container
made carries the given label. -/
def write (fresh : L) (step : PathExpr) (new : Value L) (target : Value L) :
    Except Fault (Option (Value L)) :=
  match step with
  | .attribute name =>
    match target with
    | .object _ fields => .ok (some (.object fresh (Fields.set name new fields)))
    | _ => .error (.notARecord .set)
  | .union terms => do
    let items ← itemsFor .set target
    match terms with
    | [.index i] =>
      match resolveIndex items.length i with
      | some place => .ok (some (.array fresh (items.set place new)))
      | none => .error (.indexOutOfRange i items.length)
    | [.constraint relation left right] => do
      let place ← select relation left right items
      .ok (place.map (fun place => .array fresh (items.set place new)))
    | terms => .error (.unsupportedExpression (.expression (.union terms)))
  | other => .error (.unsupportedExpression (.expression other))

end PathExpr

end DocumentStore
