import DocumentStore.Path.Lookup
import DocumentStore.Text.Case

/-!
# Filters

A filter decides for a value whether it is in the result of a query.  Its operands are literals,
paths into the value, and three functions; what a path does not find is null.

* `compareValues` — the order of two values of one kind; other values have none.
* `Operand`, `Filter` — the trees.
* `Operand.eval`, `Filter.holds` — their meaning.
-/

set_option autoImplicit false

namespace DocumentStore

/-- The order of two values of one kind.  Containers are equal or without order. -/
def compareValues (a b : Json) : Option Ordering :=
  match a, b with
  | .null, .null => some .eq
  | .bool x, .bool y => some (compareOfLessAndEq x y)
  | .number x, .number y => x.compare? y
  | .string x, .string y => some (compareOfLessAndEq x y)
  | .array _ _, .array _ _ => if a.equal b then some .eq else none
  | .object _ _, .object _ _ => if a.equal b then some .eq else none
  | _, _ => none

/-- Whether an order is what a comparison sign asks for. -/
def Comparator.accepts (comparator : Comparator) (order : Option Ordering) : Bool :=
  match comparator with
  | .eq => order == some .eq
  | .ne => order != some .eq
  | .lt => order == some .lt
  | .le => order == some .lt || order == some .eq
  | .gt => order == some .gt
  | .ge => order == some .gt || order == some .eq

/-- One step of a path in a filter. -/
inductive FilterStep where
  | key (name : String)
  | index (i : Int)
  deriving DecidableEq

/-- An operand. -/
inductive Operand where
  | path (steps : List FilterStep)
  | literal (value : Json)
  | lower (operand : Operand)
  | upper (operand : Operand)
  | length (operand : Operand)
  deriving DecidableEq

/-- A filter. -/
inductive Filter where
  | compare (comparator : Comparator) (left right : Operand)
  | and (left right : Filter)
  | or (left right : Filter)
  | not (filter : Filter)
  | truthy (operand : Operand)
  deriving DecidableEq

/-- The value behind one step. -/
def FilterStep.follow? (step : FilterStep) (value : Json) : Option Json :=
  match step, value with
  | .key name, .object _ fields => Fields.get? fields name
  | .index i, .array _ items => (resolveIndex items.length i).bind (fun place => items[place]?)
  | _, _ => none

/-- The value behind steps, or null when one of them finds nothing. -/
def followSteps (value : Json) : List FilterStep → Json
  | [] => value
  | step :: rest =>
    match step.follow? value with
    | some next => followSteps next rest
    | none => .null

/-- A text changed by a function; any other value as it is. -/
def mapText (f : List Char → List Char) : Json → Json
  | .string s => .string (String.ofList (f s.toList))
  | value => value

/-- The length of a text or an array; any other value has none. -/
def lengthOf : Json → Json
  | .array _ items => Json.ofCount items.length
  | .string s => Json.ofCount s.length
  | _ => .null

/-- The value of an operand. -/
def Operand.eval (current : Json) : Operand → Json
  | .literal value => value
  | .path steps => followSteps current steps
  | .lower operand => mapText toLowerText (operand.eval current)
  | .upper operand => mapText toUpperText (operand.eval current)
  | .length operand => lengthOf (operand.eval current)

/-- Whether a filter holds of a value. -/
def Filter.holds (current : Json) : Filter → Bool
  | .compare comparator left right =>
    comparator.accepts (compareValues (left.eval current) (right.eval current))
  | .and left right => left.holds current && right.holds current
  | .or left right => left.holds current || right.holds current
  | .not filter => !filter.holds current
  | .truthy operand => (operand.eval current).isTruthy

end DocumentStore
