import DocumentStore.Binary64.Basic
import DocumentStore.Text.Digit

/-!
# Reading decimals

A decimal `digits * 10 ^ exponent` is read as the double nearest to it, whatever its length.

* `decimalUnits` — the magnitude nearest to a decimal.
* `Binary64.ofDecimal` — the double of a signed decimal.
* `Numeral` — a number written in digits; `Numeral.scan?` finds one at the start of a text.

* `Binary64.ofText?` — the double of a whole text, exponents included.

`Numeral.length_of_scan?`: a numeral takes at least one character.
-/

set_option autoImplicit false

namespace DocumentStore

/-- The magnitude, in units, nearest to `digits * 10 ^ exponent`. -/
def decimalUnits (digits : Nat) : Int → Nat
  | .ofNat e => nearest (digits * Nat.pow 10 e * unitsPerOne) 1
  | .negSucc e => nearest (digits * unitsPerOne) (Nat.pow 10 (e + 1))

/-- The double nearest to a signed decimal.  Exponents far outside the range of doubles are
answered without computing the power of ten. -/
def Binary64.ofDecimal (negative : Bool) (digits : Nat) (exponent : Int) : Binary64 :=
  if digits = 0 then ofUnits negative 0
  else if 400 < exponent then .infinity negative
  else if exponent < -((digits.log2 : Int) + 400) then ofUnits negative 0
  else ofUnits negative (decimalUnits digits exponent)

/-- The number that a list of decimal digits writes. -/
def natOfDigits (digits : List Char) : Nat :=
  digits.foldl (fun n c => 10 * n + (c.toNat - '0'.toNat)) 0

/-- A number written in digits, with an optional fraction: an empty one is not written. -/
structure Numeral where
  negative : Bool
  whole : List Char
  fraction : List Char
  deriving DecidableEq

namespace Numeral

/-- The text of a numeral. -/
def text (n : Numeral) : List Char :=
  (if n.negative then ['-'] else []) ++ n.whole
    ++ (if n.fraction.isEmpty then [] else '.' :: n.fraction)

/-- The double nearest to a numeral. -/
def toBinary64 (n : Numeral) : Binary64 :=
  .ofDecimal n.negative (natOfDigits (n.whole ++ n.fraction)) (-(n.fraction.length : Int))

/-- The integer that a numeral writes; `none` when it has a fraction. -/
def toInt? (n : Numeral) : Option Int :=
  if n.fraction.isEmpty then
    let magnitude : Int := natOfDigits n.whole
    some (if n.negative then -magnitude else magnitude)
  else none

/-- Whether a text starts with a minus sign, and the text behind the sign. -/
def splitSign : List Char → Bool × List Char
  | '-' :: rest => (true, rest)
  | text => (false, text)

/-- The fraction at the start of a text and the rest behind it.  A point belongs to a numeral only
when a digit follows it. -/
def splitFraction : List Char → List Char × List Char
  | '.' :: rest =>
    match rest.takeWhile isAsciiDigit with
    | [] => ([], '.' :: rest)
    | fraction => (fraction, rest.dropWhile isAsciiDigit)
  | text => ([], text)

/-- The numeral at the start of a text and the rest behind it. -/
def scan? (text : List Char) : Option (Numeral × List Char) :=
  let signed := splitSign text
  match signed.2.takeWhile isAsciiDigit with
  | [] => none
  | whole =>
    let fraction := splitFraction (signed.2.dropWhile isAsciiDigit)
    some (⟨signed.1, whole, fraction.1⟩, fraction.2)

theorem length_splitSign_le (text : List Char) : (splitSign text).2.length ≤ text.length := by
  unfold splitSign
  split <;> simp

theorem length_splitFraction_le (text : List Char) :
    (splitFraction text).2.length ≤ text.length := by
  unfold splitFraction
  split
  · next rest =>
    have := (List.dropWhile_sublist (l := rest) isAsciiDigit).length_le
    split
    · exact Nat.le_refl _
    · simp only [List.length_cons]
      omega
  · exact Nat.le_refl _

/-- What follows a numeral is shorter than the text it starts. -/
theorem length_of_scan? {text : List Char} {n : Numeral} {rest : List Char}
    (h : scan? text = some (n, rest)) : rest.length < text.length := by
  unfold scan? at h
  simp only at h
  split at h
  · simp at h
  · next hne =>
    simp only [Option.some.injEq, Prod.mk.injEq] at h
    have hsign := length_splitSign_le text
    have hfraction := length_splitFraction_le ((splitSign text).2.dropWhile isAsciiDigit)
    have hsum := congrArg List.length
      (List.takeWhile_append_dropWhile (p := isAsciiDigit) (l := (splitSign text).2))
    have hpos : 0 < ((splitSign text).2.takeWhile isAsciiDigit).length :=
      List.length_pos_iff.2 hne
    rw [List.length_append] at hsum
    rw [← h.2]
    omega

end Numeral

/-- The exponent written behind `e` or `E`, zero when there is none. -/
def exponentOfText? : List Char → Option Int
  | [] => some 0
  | c :: rest =>
    if c = 'e' ∨ c = 'E' then
      let (negative, digits) := match rest with
        | '-' :: digits => (true, digits)
        | '+' :: digits => (false, digits)
        | digits => (false, digits)
      if digits.isEmpty || !digits.all isAsciiDigit then none
      else some (if negative then -(natOfDigits digits : Int) else natOfDigits digits)
    else none

/-- The double nearest to a whole text: a numeral with an optional exponent, `inf` or `NaN`. -/
def Binary64.ofText? (text : List Char) : Option Binary64 :=
  if text = "NaN".toList then some .nan
  else if text = "inf".toList then some (.infinity false)
  else if text = "-inf".toList then some (.infinity true)
  else match Numeral.scan? text with
    | none => none
    | some (n, rest) => (exponentOfText? rest).map (fun e =>
        .ofDecimal n.negative (natOfDigits (n.whole ++ n.fraction)) (e - n.fraction.length))

end DocumentStore
