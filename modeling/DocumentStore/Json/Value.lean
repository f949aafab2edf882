import DocumentStore.Json.Number

/-!
# JSON values

An object is a list of fields in the order they were written.  Every container carries a label.
The library never looks at labels: an edit keeps the labels of the containers it keeps and puts
the label it is given on those it makes, so a label tells what two values share.  `Json` is the
value whose labels say nothing.

* `Value`, `Json` — values with labelled containers, and with none.
* `Fields.get?`, `Fields.set`, `Fields.erase` — fields by key; a key keeps its place.
* `Value.same` — the very same value: containers by label, others by `Value.equal`.
* `Value.equal` — equality by value, without regard to the order of fields.
-/

set_option autoImplicit false

namespace DocumentStore

/-- A JSON value whose containers carry labels. -/
inductive Value (L : Type) where
  | null
  | bool (b : Bool)
  | number (n : Number)
  | string (s : String)
  | array (label : L) (items : List (Value L))
  | object (label : L) (fields : List (String × Value L))

/-- A plain JSON value. -/
abbrev Json := Value Unit

instance {L : Type} : Inhabited (Value L) := ⟨.null⟩

/-- The fields of an object, in order. -/
abbrev Fields (α : Type) := List (String × α)

namespace Fields

variable {α : Type}

/-- The value of the first field with this key. -/
def get? (fields : Fields α) (key : String) : Option α := fields.lookup key

/-- A field written in its place, or behind all others when the key is new. -/
def set (key : String) (value : α) : Fields α → Fields α
  | [] => [(key, value)]
  | (k, v) :: rest => if k = key then (k, value) :: rest else (k, v) :: set key value rest

/-- The fields without a key, the others in their order. -/
def erase (fields : Fields α) (key : String) : Fields α :=
  fields.filter (fun field => !(field.1 == key))

/-- A field written only when the key is new. -/
def setIfAbsent (key : String) (value : α) (fields : Fields α) : Fields α :=
  match get? fields key with
  | some _ => fields
  | none => set key value fields

/-- Fields written one after the other. -/
def ofList (fields : List (String × α)) : Fields α :=
  fields.foldl (fun written field => set field.1 field.2 written) []

/-- A written key holds the value written. -/
theorem get?_set_self (key : String) (value : α) (fields : Fields α) :
    get? (set key value fields) key = some value := by
  induction fields with
  | nil => simp [get?, set]
  | cons field rest ih =>
    obtain ⟨k, v⟩ := field
    unfold set
    split
    · next h => simp [get?, h]
    · next h =>
      have hk : (key == k) = false := beq_false_of_ne (Ne.symm h)
      simpa [get?, List.lookup_cons, hk] using ih

/-- Any other key keeps its value. -/
theorem get?_set_ne {key other : String} (h : other ≠ key) (value : α) (fields : Fields α) :
    get? (set key value fields) other = get? fields other := by
  induction fields with
  | nil => simp [get?, set, List.lookup_cons, beq_false_of_ne h]
  | cons field rest ih =>
    obtain ⟨k, v⟩ := field
    unfold set
    split
    · next hk => simp [get?, List.lookup_cons, hk, beq_false_of_ne h]
    · next hk =>
      have ih : List.lookup other (set key value rest) = List.lookup other rest := ih
      simp only [get?, List.lookup_cons, ih]

end Fields

/-- The kind of a value. -/
inductive Kind where
  | null
  | boolean
  | number
  | string
  | array
  | object
  deriving DecidableEq

/-- The name of a kind in messages. -/
def Kind.name : Kind → String
  | .null => "null"
  | .boolean => "boolean"
  | .number => "number"
  | .string => "string"
  | .array => "array"
  | .object => "object"

namespace Value

variable {L M : Type}

/-- The kind of a value. -/
def kind : Value L → Kind
  | .null => .null
  | .bool _ => .boolean
  | .number _ => .number
  | .string _ => .string
  | .array _ _ => .array
  | .object _ _ => .object

/-- Whether a value counts as true: not null, false, zero or the empty string. -/
def isTruthy : Value L → Bool
  | .null => false
  | .bool b => b
  | .number n => !n.isZero
  | .string s => !s.isEmpty
  | .array _ _ => true
  | .object _ _ => true

/-- The items of an array. -/
def items? : Value L → Option (List (Value L))
  | .array _ items => some items
  | _ => none

/-- The fields of an object. -/
def fields? : Value L → Option (Fields (Value L))
  | .object _ fields => some fields
  | _ => none

/-- The text of a string. -/
def string? : Value L → Option String
  | .string s => some s
  | _ => none

/-- The field of an object with this key; no other value has fields. -/
def field? (value : Value L) (key : String) : Option (Value L) :=
  match value with
  | .object _ fields => Fields.get? fields key
  | _ => none

mutual

/-- Equality by value: numbers by value, objects without regard to the order of fields. -/
def equal : Value L → Value L → Bool
  | .null, .null => true
  | .bool a, .bool b => a == b
  | .number a, .number b => a.equal b
  | .string a, .string b => a == b
  | .array _ a, .array _ b => equalItems a b
  | .object _ a, .object _ b => a.length == b.length && equalFields a b
  | _, _ => false

/-- Equality of items one by one. -/
def equalItems : List (Value L) → List (Value L) → Bool
  | [], [] => true
  | a :: as, b :: bs => equal a b && equalItems as bs
  | _, _ => false

/-- Whether every field of the first list has an equal one in the second. -/
def equalFields : List (String × Value L) → List (String × Value L) → Bool
  | [], _ => true
  | (key, a) :: rest, other =>
    (match Fields.get? other key with
      | some b => equal a b
      | none => false) && equalFields rest other

end

/-- The very same value: containers by label, other values by value. -/
def same [DecidableEq L] : Value L → Value L → Bool
  | .array l _, .array m _ => decide (l = m)
  | .object l _, .object m _ => decide (l = m)
  | .array _ _, _ => false
  | .object _ _, _ => false
  | a, b => equal a b

/-- A new container with the same children; any other value is itself. -/
def shallowCopy (fresh : L) : Value L → Value L
  | .array _ items => .array fresh items
  | .object _ fields => .object fresh fields
  | value => value

mutual

/-- Whether two values are written alike: labels, field order and number forms included. -/
def identical [DecidableEq L] : Value L → Value L → Bool
  | .null, .null => true
  | .bool a, .bool b => a == b
  | .number a, .number b => decide (a = b)
  | .string a, .string b => a == b
  | .array l a, .array m b => decide (l = m) && identicalItems a b
  | .object l a, .object m b => decide (l = m) && identicalFields a b
  | _, _ => false

/-- Whether two lists of items are written alike. -/
def identicalItems [DecidableEq L] : List (Value L) → List (Value L) → Bool
  | [], [] => true
  | a :: as, b :: bs => identical a b && identicalItems as bs
  | _, _ => false

/-- Whether two lists of fields are written alike. -/
def identicalFields [DecidableEq L] :
    List (String × Value L) → List (String × Value L) → Bool
  | [], [] => true
  | (k, a) :: as, (j, b) :: bs => k == j && identical a b && identicalFields as bs
  | _, _ => false

end

mutual

theorem identical_iff [DecidableEq L] : ∀ a b : Value L, identical a b = true ↔ a = b
  | .null, b => by cases b <;> simp [identical]
  | .bool _, b => by cases b <;> simp [identical]
  | .number _, b => by cases b <;> simp [identical]
  | .string _, b => by cases b <;> simp [identical]
  | .array l as, b => by
    cases b <;> simp [identical]
    exact fun _ => identicalItems_iff as _
  | .object l as, b => by
    cases b <;> simp [identical]
    exact fun _ => identicalFields_iff as _

theorem identicalItems_iff [DecidableEq L] :
    ∀ as bs : List (Value L), identicalItems as bs = true ↔ as = bs
  | [], bs => by cases bs <;> simp [identicalItems]
  | a :: as, bs => by
    cases bs with
    | nil => simp [identicalItems]
    | cons b bs => simp [identicalItems, identical_iff a b, identicalItems_iff as bs]

theorem identicalFields_iff [DecidableEq L] :
    ∀ as bs : List (String × Value L), identicalFields as bs = true ↔ as = bs
  | [], bs => by cases bs <;> simp [identicalFields]
  | (k, a) :: as, bs => by
    cases bs with
    | nil => simp [identicalFields]
    | cons field bs =>
      obtain ⟨j, b⟩ := field
      simp [identicalFields, identical_iff a b, identicalFields_iff as bs]

end

instance [DecidableEq L] : DecidableEq (Value L) :=
  fun a b => decidable_of_iff (identical a b = true) (identical_iff a b)

mutual

/-- The value with every label replaced. -/
def relabel (f : L → M) : Value L → Value M
  | .null => .null
  | .bool b => .bool b
  | .number n => .number n
  | .string s => .string s
  | .array l items => .array (f l) (relabelItems f items)
  | .object l fields => .object (f l) (relabelFields f fields)

/-- Items with every label replaced. -/
def relabelItems (f : L → M) : List (Value L) → List (Value M)
  | [] => []
  | item :: rest => relabel f item :: relabelItems f rest

/-- Fields with every label replaced. -/
def relabelFields (f : L → M) : List (String × Value L) → List (String × Value M)
  | [] => []
  | (key, value) :: rest => (key, relabel f value) :: relabelFields f rest

end

end Value

namespace Json

/-- An array of these items. -/
def ofItems (items : List Json) : Json := .array () items

/-- An object of these fields. -/
def ofFields (fields : Fields Json) : Json := .object () fields

/-- A count. -/
def ofCount (n : Nat) : Json := .number (.ofCount n)

/-- An array of texts. -/
def ofTexts (texts : List String) : Json := ofItems (texts.map .string)

end Json

end DocumentStore
