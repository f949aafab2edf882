/-!
# Exact binary64 numbers

A finite double is a sign and a magnitude; the magnitude is a natural number of *units* of
`2 ^ -1074`, the spacing of the smallest doubles.  Every operation is exact natural-number
arithmetic followed by one rounding, so nothing here depends on machine floats.

* `Representable` — the magnitudes with at most 53 significant bits below the overflow bound.
* `Finite`, `Binary64` — finite doubles, and those together with the infinities and NaN.
* `nearest` — the nearest magnitude to a quotient, a tie going to the even significand.
* `Binary64.ofInt`, `Binary64.add`, `Binary64.compare?` — conversion, sum and order.

`nearest_of_representable`: a magnitude that is representable is its own rounding.
-/

set_option autoImplicit false

namespace DocumentStore

/-- Units in one: a double is a whole number of multiples of `2 ^ -1074`. -/
def unitsPerOne : Nat := Nat.pow 2 1074

/-- The first magnitude, in units, that no finite double reaches. -/
def overflowUnits : Nat := Nat.pow 2 2098

/-- The number of low bits, in units, that a magnitude of this size must leave zero. -/
def spareBits (units : Nat) : Nat := units.log2 - 52

/-- A magnitude with at most 53 significant bits that does not overflow. -/
def Representable (units : Nat) : Prop :=
  units < overflowUnits ∧ units % Nat.pow 2 (spareBits units) = 0

instance (units : Nat) : Decidable (Representable units) :=
  inferInstanceAs (Decidable (_ ∧ _))

/-- A finite double.  Zero keeps its sign. -/
structure Finite where
  negative : Bool
  units : Nat
  representable : Representable units
  deriving DecidableEq

/-- A double: finite, infinite or not a number. -/
inductive Binary64 where
  | finite (x : Finite)
  | infinity (negative : Bool)
  | nan
  deriving DecidableEq

/-- Quotient rounded to the nearest natural number, a tie going to the even one. -/
def roundHalfEven (num den : Nat) : Nat :=
  let quotient := num / den
  let twice := 2 * (num % den)
  if den < twice || (twice == den && quotient % 2 == 1) then quotient + 1 else quotient

/-- The magnitude of 53 significant bits nearest to `num / den` units. -/
def nearest (num den : Nat) : Nat :=
  let spare := spareBits (num / den)
  roundHalfEven num (den * Nat.pow 2 spare) * Nat.pow 2 spare

theorem roundHalfEven_mul (m den : Nat) (h : 0 < den) : roundHalfEven (m * den) den = m := by
  unfold roundHalfEven
  simp [Nat.mul_div_cancel m h]
  omega

/-- A representable magnitude is its own rounding. -/
theorem nearest_of_representable (units : Nat) (h : Representable units) :
    nearest units 1 = units := by
  have hpos : 0 < Nat.pow 2 (spareBits units) := Nat.two_pow_pos _
  have hunits : units / Nat.pow 2 (spareBits units) * Nat.pow 2 (spareBits units) = units :=
    Nat.div_mul_cancel (Nat.dvd_of_mod_eq_zero h.2)
  have hround := roundHalfEven_mul (units / Nat.pow 2 (spareBits units)) _ hpos
  rw [hunits] at hround
  unfold nearest
  simp only [Nat.div_one, Nat.one_mul]
  rw [hround, hunits]

namespace Finite

/-- The signed number of units; both zeros give zero. -/
def signedUnits (x : Finite) : Int := if x.negative then -(x.units : Int) else x.units

/-- Whether the value is an integer. -/
def isIntegral (x : Finite) : Bool := x.units % unitsPerOne == 0

/-- The integer part, cut toward zero. -/
def truncate (x : Finite) : Int :=
  let whole : Int := (x.units / unitsPerOne : Nat)
  if x.negative then -whole else whole

end Finite

namespace Binary64

/-- The double of this sign and magnitude, or the infinity of this sign when it overflows. -/
def ofUnits (negative : Bool) (units : Nat) : Binary64 :=
  if h : Representable units then .finite ⟨negative, units, h⟩ else .infinity negative

/-- The double nearest to `num / den` units of the given sign. -/
def ofQuotient (negative : Bool) (num den : Nat) : Binary64 :=
  ofUnits negative (nearest num den)

/-- The double nearest to an integer. -/
def ofInt (n : Int) : Binary64 := ofQuotient (n < 0) (n.natAbs * unitsPerOne) 1

/-- Change of sign. -/
def neg : Binary64 → Binary64
  | .finite x => .finite { x with negative := !x.negative }
  | .infinity s => .infinity !s
  | .nan => .nan

/-- The rounded sum.  An exact zero is negative only when both summands are. -/
def add : Binary64 → Binary64 → Binary64
  | .nan, _ => .nan
  | _, .nan => .nan
  | .infinity s, .infinity t => if s = t then .infinity s else .nan
  | .infinity s, .finite _ => .infinity s
  | .finite _, .infinity t => .infinity t
  | .finite x, .finite y =>
    let sum := x.signedUnits + y.signedUnits
    let negative := if sum = 0 then x.negative && y.negative else decide (sum < 0)
    ofQuotient negative sum.natAbs 1

/-- The rounded difference. -/
def sub (x y : Binary64) : Binary64 := add x y.neg

/-- The rounded product of two finite doubles. -/
def mulFinite (x y : Finite) : Binary64 :=
  ofQuotient (x.negative != y.negative) (x.units * y.units) unitsPerOne

/-- The rounded quotient of two finite doubles, the second not zero. -/
def divFinite (x y : Finite) : Binary64 :=
  ofQuotient (x.negative != y.negative) (x.units * unitsPerOne) y.units

/-- The order of two doubles; NaN has none. -/
def compare? : Binary64 → Binary64 → Option Ordering
  | .nan, _ => none
  | _, .nan => none
  | .infinity s, .infinity t =>
    some (if s = t then .eq else if s then .lt else .gt)
  | .infinity s, .finite _ => some (if s then .lt else .gt)
  | .finite _, .infinity t => some (if t then .gt else .lt)
  | .finite x, .finite y => some (compareOfLessAndEq x.signedUnits y.signedUnits)

/-- Numeric equality: the two zeros are equal and NaN equals nothing. -/
def equal (x y : Binary64) : Bool := compare? x y == some .eq

/-- The value of an integral double, held inside `[lo, hi]`; `none` for any other double. -/
def toIntClamped? (lo hi : Int) : Binary64 → Option Int
  | .finite x => if x.isIntegral then some (max lo (min hi x.truncate)) else none
  | _ => none

end Binary64

end DocumentStore
