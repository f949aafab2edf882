import DocumentStore.Binary64.Decimal

/-!
# The fewest digits that read back

A finite double is written with the fewest decimal digits that read back as the same double;
of two such decimals the nearer one is taken.  The search tests, for one digit, two digits, and
so on, the two neighbours of the value on that decimal grid.  Seventeen digits always suffice;
behind them stands the exact expansion, which every double has.

* `TieRule` — which of two equally near decimals is written.
* `Shortest` — digits and exponent of the decimal chosen.
* `shortest` — the search.
-/

set_option autoImplicit false

namespace DocumentStore

/-- Which of two equally near decimals is written. -/
inductive TieRule where
  | toEven
  | awayFromZero
  deriving DecidableEq

/-- The decimal `digits * 10 ^ exponent`. -/
structure Shortest where
  digits : Nat
  exponent : Int
  deriving DecidableEq

/-- Whether `10 ^ e` is at most the value of a magnitude. -/
def tenPowerLe (e : Int) (units : Nat) : Bool :=
  match e with
  | .ofNat e => decide (Nat.pow 10 e * unitsPerOne ≤ units)
  | .negSucc e => decide (unitsPerOne ≤ units * Nat.pow 10 (e + 1))

/-- The exponent of the leading decimal digit: `10 ^ e ≤ value < 10 ^ (e + 1)`. -/
def leadingExponent (units : Nat) : Int :=
  let guess := ((units.log2 : Int) - 1074) * 30103 / 100000
  if tenPowerLe (guess + 1) units then guess + 1 else guess

/-- The value of a magnitude counted in steps of `10 ^ e`, as a quotient. -/
def decimalGrid (units : Nat) : Int → Nat × Nat
  | .ofNat e => (units, Nat.pow 10 e * unitsPerOne)
  | .negSucc e => (units * Nat.pow 10 (e + 1), unitsPerOne)

/-- The neighbour of the value on the grid of `10 ^ e` that reads back, the nearer one of two. -/
def gridHit (tie : TieRule) (units : Nat) (e : Int) : Option Nat :=
  let (num, den) := decimalGrid units e
  let low := num / den
  let twice := 2 * (num % den)
  let readsBack (digits : Nat) : Bool := decimalUnits digits e == units
  if readsBack low then
    if readsBack (low + 1) then
      let up := den < twice || (twice == den && (tie == .awayFromZero || low % 2 == 1))
      some (if up then low + 1 else low)
    else some low
  else if readsBack (low + 1) then some (low + 1)
  else none

/-- A decimal without its trailing zeros. -/
def stripZeros (digits : Nat) (exponent : Int) : Shortest :=
  if h : digits ≠ 0 ∧ digits % 10 = 0 then stripZeros (digits / 10) (exponent + 1)
  else ⟨digits, exponent⟩
  termination_by digits
  decreasing_by omega

/-- The decimal written for a magnitude. -/
def shortest (tie : TieRule) (units : Nat) : Shortest :=
  let lead := leadingExponent units
  let grids := (List.range 17).map (fun (i : Nat) => lead - (i : Int))
  match grids.findSome? (fun e => (gridHit tie units e).map (fun digits => (digits, e))) with
  | some (digits, e) => stripZeros digits e
  | none => stripZeros (units * Nat.pow 5 1074) (-1074)

end DocumentStore
