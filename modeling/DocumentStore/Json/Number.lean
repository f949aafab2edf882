import DocumentStore.Binary64.Layout

/-!
# JSON numbers

A number is an integer of 64 bits, signed or unsigned, or a finite double.  The two forms are
told apart in text (`1` and `1.0`) and compared by value.

* `Integer`, `Number` — the two forms.
* `Number.ofBinary64?` — integral doubles in the signed range become integers.
* `Number.equal`, `Number.compare?` — integers are compared exactly, mixed forms as doubles.
* `Number.add?` — the sum of two integers while it fits the signed range, else of two doubles.
-/

set_option autoImplicit false

namespace DocumentStore

/-- The least integer. -/
def minSigned : Int := -0x8000000000000000

/-- The greatest integer of signed form. -/
def maxSigned : Int := 0x7FFFFFFFFFFFFFFF

/-- The greatest integer of unsigned form. -/
def maxUnsigned : Int := 0xFFFFFFFFFFFFFFFF

/-- An integer of 64 bits, signed or unsigned. -/
structure Integer where
  value : Int
  inRange : minSigned ≤ value ∧ value ≤ maxUnsigned
  deriving DecidableEq

/-- Whether an integer has the signed form. -/
def Integer.isSigned (n : Integer) : Bool := decide (n.value ≤ maxSigned)

/-- A JSON number. -/
inductive Number where
  | int (n : Integer)
  | float (x : Finite)
  deriving DecidableEq

namespace Number

/-- An integer as a number, when it is in range. -/
def ofInt? (n : Int) : Option Number :=
  if h : minSigned ≤ n ∧ n ≤ maxUnsigned then some (.int ⟨n, h⟩) else none

/-- A natural number that counts something: the greatest integer when it is out of range. -/
def ofCount (n : Nat) : Number :=
  if h : minSigned ≤ (n : Int) ∧ (n : Int) ≤ maxUnsigned then .int ⟨n, h⟩
  else .int ⟨maxUnsigned, by decide⟩

/-- The double nearest to a number. -/
def toBinary64 : Number → Binary64
  | .int n => .ofInt n.value
  | .float x => .finite x

/-- Whether a number is zero. -/
def isZero : Number → Bool
  | .int n => n.value == 0
  | .float x => x.units == 0

/-- A double as a number.  An integral double from `-2 ^ 63` up to `2 ^ 63` becomes the integer
held in the signed range; an infinity and NaN have no number. -/
def ofBinary64? : Binary64 → Option Number
  | .finite x =>
    if x.isIntegral && decide (minSigned ≤ x.truncate) && decide (x.truncate ≤ maxSigned + 1) then
      ofInt? (min x.truncate maxSigned)
    else some (.float x)
  | _ => none

/-- Equality by value: exact for two integers, after rounding to doubles otherwise. -/
def equal : Number → Number → Bool
  | .int m, .int n => m.value == n.value
  | a, b => a.toBinary64.equal b.toBinary64

/-- Order by value: equal numbers are equal, others are ordered as doubles. -/
def compare? (a b : Number) : Option Ordering :=
  if a.equal b then some .eq else a.toBinary64.compare? b.toBinary64

/-- The exact integer result of an operation on signed integers, when it is a signed integer. -/
def integral? (op : Int → Int → Int) : Number → Number → Option Number
  | .int m, .int n =>
    let result := op m.value n.value
    if m.isSigned && n.isSigned && decide (minSigned ≤ result) && decide (result ≤ maxSigned) then
      ofInt? result
    else none
  | _, _ => none

/-- A finite double as a number of float form. -/
def ofFinite? : Binary64 → Option Number
  | .finite x => some (.float x)
  | _ => none

/-- The sum, exact in the signed range and a double beyond; `none` when it overflows. -/
def add? (a b : Number) : Option Number :=
  integral? (· + ·) a b <|> ofFinite? (a.toBinary64.add b.toBinary64)

/-- The difference, exact in the signed range and a double beyond; `none` when it overflows. -/
def sub? (a b : Number) : Option Number :=
  integral? (· - ·) a b <|> ofFinite? (a.toBinary64.sub b.toBinary64)

/-- The JSON text of a number. -/
def text : Number → String
  | .int n => String.ofList (intText n.value)
  | .float x => String.ofList (NumberLayout.json.finiteText x)

end Number

end DocumentStore
