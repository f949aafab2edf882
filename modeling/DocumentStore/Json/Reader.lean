import DocumentStore.Json.Draft
import DocumentStore.Json.Value

/-!
# Reading JSON

A draft becomes a value when its strings pair their surrogates, its numbers are in range and its
containers are not nested too deeply.  A repeated key keeps its first place and its last value.

A number without fraction and exponent is an integer while it fits 64 bits.  Any other number is
read in double arithmetic: the leading digits that fit 64 bits are rounded to a double, which is
then multiplied or divided by a power of ten.

* `NumberDraft.toNumber?` — the number written.
* `Draft.toJson?` — the value written.
* `Json.ofText?` — the value of a whole text.
-/

set_option autoImplicit false

namespace DocumentStore

/-- The significand after reading digits while it stays below `2 ^ 64`, and the number of digits
left over from the first that does not fit. -/
def absorbDigits (significand : Nat) : List Char → Nat × Nat
  | [] => (significand, 0)
  | c :: rest =>
    let next := significand * 10 + (c.toNat - '0'.toNat)
    if next < Nat.pow 2 64 then absorbDigits next rest else (significand, rest.length + 1)

/-- The double nearest to a power of ten. -/
def tenPower (e : Nat) : Binary64 := .ofInt (Nat.pow 10 e)

/-- A double multiplied, or divided, by a power of ten; `none` when the result is not finite. -/
def timesTenPower (divide : Bool) (x : Finite) (e : Nat) : Option Finite :=
  match tenPower e with
  | .finite power =>
    match if divide then Binary64.divFinite x power else Binary64.mulFinite x power with
    | .finite y => some y
    | _ => none
  | _ => none

/-- The greatest power of ten that is a finite double. -/
def greatestTenPower : Nat := 308

/-- A double multiplied by `10 ^ exponent`; `none` when it overflows.  Far below the range it is
divided in steps of `10 ^ 308`; nothing is left of a number of 64 bits after three of them. -/
def scaleByTen (steps : Nat) (x : Finite) (exponent : Int) : Option Finite :=
  if exponent.natAbs ≤ greatestTenPower then timesTenPower (exponent < 0) x exponent.natAbs
  else if x.units = 0 then some x
  else if 0 ≤ exponent then none
  else match steps with
    | 0 => some x
    | steps + 1 =>
      match timesTenPower true x greatestTenPower with
      | some y => scaleByTen steps y (exponent + greatestTenPower)
      | none => none

namespace NumberDraft

/-- Whether a number is written without fraction and exponent. -/
def isWhole (n : NumberDraft) : Bool := n.fraction.isNone && n.exponent.isNone

/-- The integer that the whole digits write. -/
def wholeValue (n : NumberDraft) : Int :=
  let magnitude : Int := natOfDigits n.whole
  if n.negative then -magnitude else magnitude

/-- The number read in double arithmetic; `none` when it overflows. -/
def toDouble? (n : NumberDraft) : Option Finite :=
  let (leading, dropped) := absorbDigits 0 n.whole
  let fraction := n.fraction.getD []
  let (significand, unread) := absorbDigits leading fraction
  let written : Int := match n.exponent with
    | some (negative, digits) =>
      if negative then -(natOfDigits digits : Int) else natOfDigits digits
    | none => 0
  let exponent := (dropped : Int) - ((fraction.length - unread : Nat) : Int) + written
  match Binary64.ofInt significand with
  | .finite x =>
    (scaleByTen 3 x exponent).map (fun y => { y with negative := n.negative })
  | _ => none

/-- The number written. -/
def toNumber? (n : NumberDraft) : Option Number :=
  let value := n.wholeValue
  let isNegativeZero := n.negative && value == 0
  let lowest : Int := if n.negative then minSigned else 0
  if n.isWhole && !isNegativeZero && decide (lowest ≤ value) && decide (value ≤ maxUnsigned) then
    Number.ofInt? value
  else n.toDouble?.map .float

end NumberDraft

/-- The characters of a string: escaped surrogates must stand in pairs. -/
def joinPieces : List Piece → Option (List Char)
  | [] => some []
  | .char c :: rest => (joinPieces rest).map (c :: ·)
  | .unit high :: rest =>
    if 0xD800 ≤ high ∧ high ≤ 0xDBFF then
      match rest with
      | .unit low :: rest =>
        if 0xDC00 ≤ low ∧ low ≤ 0xDFFF then
          (joinPieces rest).map
            (Char.ofNat (0x10000 + (high - 0xD800) * 0x400 + (low - 0xDC00)) :: ·)
        else none
      | _ => none
    else if 0xDC00 ≤ high ∧ high ≤ 0xDFFF then none
    else (joinPieces rest).map (Char.ofNat high :: ·)

/-- The text of a string. -/
def stringOfPieces? (pieces : List Piece) : Option String := (joinPieces pieces).map String.ofList

namespace Draft

mutual

/-- The value of a draft whose containers nest at most `depth` deep. -/
def toJson? (depth : Nat) : Draft → Option Json
  | .null => some .null
  | .bool b => some (.bool b)
  | .number n => n.toNumber?.map .number
  | .string pieces => (stringOfPieces? pieces).map .string
  | .array items =>
    match depth with
    | 0 => none
    | depth + 1 => (itemsToJson? depth items).map Json.ofItems
  | .object fields =>
    match depth with
    | 0 => none
    | depth + 1 => (fieldsToJson? depth fields).map (fun written => Json.ofFields (.ofList written))

/-- The values of items. -/
def itemsToJson? (depth : Nat) : List Draft → Option (List Json)
  | [] => some []
  | item :: rest => do
    let item ← toJson? depth item
    let rest ← itemsToJson? depth rest
    some (item :: rest)

/-- The keys and values of fields. -/
def fieldsToJson? (depth : Nat) : List (List Piece × Draft) → Option (List (String × Json))
  | [] => some []
  | (key, value) :: rest => do
    let key ← stringOfPieces? key
    let value ← toJson? depth value
    let rest ← fieldsToJson? depth rest
    some ((key, value) :: rest)

end

end Draft

namespace Json

/-- How deep containers may nest in a text. -/
def maxDepth : Nat := 127

/-- The value of a whole text. -/
def ofText? (text : String) : Option Json := do
  let draft ← Draft.ofText? text
  draft.toJson? maxDepth

end Json

end DocumentStore
