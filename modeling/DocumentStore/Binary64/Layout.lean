import DocumentStore.Binary64.Shortest

/-!
# Layouts of number text

Three texts of a double occur: in JSON, in a rendered path and in a token listing.  All write
the shortest digits; each is one value of `NumberLayout`.

* `NumberLayout.json` — plain from `1e-5` to below `1e+16`, always with a fraction.
* `NumberLayout.path` — always plain, and an integral value without a fraction.
* `NumberLayout.listing` — plain from `1e-4` to below `1e16`, always with a fraction.
-/

set_option autoImplicit false

namespace DocumentStore

/-- How the shortest digits of a double are laid out. -/
structure NumberLayout where
  /-- Exponents of the leading digit written without an exponent: from the first, below the
  second; `none` when every value is. -/
  plain : Option (Int × Int)
  /-- Whether an integral value written plainly ends in `.0`. -/
  pointZero : Bool
  /-- Whether a positive exponent has its sign. -/
  plusSign : Bool
  tie : TieRule

/-- JSON text: `1.0`, `0.00001`, `1e+16`, `1.5e-7`. -/
def NumberLayout.json : NumberLayout := ⟨some (-5, 16), true, true, .toEven⟩

/-- A number in a rendered path: `1`, `0.00000001`, `100000000000000000000`. -/
def NumberLayout.path : NumberLayout := ⟨none, false, false, .awayFromZero⟩

/-- A number in a token listing: `1.0`, `1e16`, `1e-8`. -/
def NumberLayout.listing : NumberLayout := ⟨some (-4, 16), true, false, .awayFromZero⟩

/-- The decimal digits of a natural number. -/
def digitsOf (n : Nat) : List Char := Nat.toDigits 10 n

/-- The text of an integer. -/
def intText (n : Int) : List Char :=
  if n < 0 then '-' :: digitsOf n.natAbs else digitsOf n.natAbs

namespace NumberLayout

/-- Digits without an exponent: the point goes after the digit of exponent zero. -/
def plainText (layout : NumberLayout) (digits : List Char) (exponent : Int) : List Char :=
  if 0 ≤ exponent then
    digits ++ List.replicate exponent.toNat '0' ++ (if layout.pointZero then ['.', '0'] else [])
  else
    let places := exponent.natAbs
    if digits.length ≤ places then
      '0' :: '.' :: (List.replicate (places - digits.length) '0' ++ digits)
    else
      let whole := digits.length - places
      digits.take whole ++ '.' :: digits.drop whole

/-- Digits with an exponent: the point goes after the first digit. -/
def scientificText (layout : NumberLayout) (digits : List Char) (lead : Int) : List Char :=
  let mantissa := match digits with
    | [] => []
    | [d] => [d]
    | d :: rest => d :: '.' :: rest
  let sign := if layout.plusSign && decide (0 ≤ lead) then ['+'] else []
  mantissa ++ 'e' :: (sign ++ intText lead)

/-- The text of a magnitude. -/
def magnitudeText (layout : NumberLayout) (units : Nat) : List Char :=
  if units = 0 then layout.plainText ['0'] 0
  else
    let decimal := shortest layout.tie units
    let digits := digitsOf decimal.digits
    let lead := decimal.exponent + digits.length - 1
    match layout.plain with
    | none => layout.plainText digits decimal.exponent
    | some (low, high) =>
      if low ≤ lead && lead < high then layout.plainText digits decimal.exponent
      else layout.scientificText digits lead

/-- The text of a finite double. -/
def finiteText (layout : NumberLayout) (x : Finite) : List Char :=
  (if x.negative then ['-'] else []) ++ layout.magnitudeText x.units

/-- The text of a double. -/
def text (layout : NumberLayout) : Binary64 → List Char
  | .finite x => layout.finiteText x
  | .infinity negative => (if negative then ['-'] else []) ++ "inf".toList
  | .nan => "NaN".toList

end NumberLayout

end DocumentStore
