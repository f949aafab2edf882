import DocumentStore.Document

/-!
# Fresh transactions

A batch that names no transaction takes a random one, and every batch takes the time at which it
is committed.  Here is how both are written; where they come from is left to the outer layer.

* `randomIdText` — sixteen random bytes as the text of an id.
* `Moment`, `Moment.text` — a time in universal time, to the millisecond.
-/

set_option autoImplicit false

namespace DocumentStore

/-- A byte in two hexadecimal digits. -/
def hexByte (byte : UInt8) : List Char :=
  [Nat.digitChar (byte.toNat / 16), Nat.digitChar (byte.toNat % 16)]

/-- Bytes in hexadecimal digits. -/
def hexBytes (bytes : List UInt8) : List Char := bytes.flatMap hexByte

/-- The bytes of a random id: four bits of the seventh byte say that it is random, and two bits of
the ninth say how it is laid out. -/
def markRandom (bytes : List UInt8) : List UInt8 :=
  (bytes.modify 6 (fun b => 0x40 ||| (b &&& 0x0F))).modify 8 (fun b => 0x80 ||| (b &&& 0x3F))

/-- Sixteen random bytes as the text of an id: five groups of digits with dashes between. -/
def randomIdText (bytes : List UInt8) : String :=
  let digits := hexBytes (markRandom bytes)
  String.ofList (digits.take 8 ++ '-' :: ((digits.drop 8).take 4
    ++ '-' :: ((digits.drop 12).take 4
    ++ '-' :: ((digits.drop 16).take 4 ++ '-' :: digits.drop 20))))

/-- A time in universal time. -/
structure Moment where
  year : Int
  month : Nat
  day : Nat
  hour : Nat
  minute : Nat
  second : Nat
  millisecond : Nat

/-- A number in at least so many digits. -/
def paddedText (width n : Nat) : String :=
  let digits := Nat.toDigits 10 n
  String.ofList (List.replicate (width - digits.length) '0' ++ digits)

/-- A time as it is stored in documents. -/
def Moment.text (moment : Moment) : String :=
  paddedText 4 moment.year.toNat ++ "-" ++ paddedText 2 moment.month ++ "-"
    ++ paddedText 2 moment.day ++ "T" ++ paddedText 2 moment.hour ++ ":"
    ++ paddedText 2 moment.minute ++ ":" ++ paddedText 2 moment.second ++ "."
    ++ paddedText 3 moment.millisecond ++ "Z"

end DocumentStore
