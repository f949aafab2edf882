/-!
# Percent escapes and UTF-8

Escaped text is bytes: a percent sign before two hexadecimal digits is one byte, and every other
character is its own UTF-8 bytes.  The bytes must then be well-formed UTF-8.

* `unescapeBytes` — the bytes of escaped text.
* `Utf8Fault` — where and how bytes fail to be UTF-8.
* `decodeUtf8` — the characters of well-formed bytes.
-/

set_option autoImplicit false

namespace DocumentStore

/-- The value of a hexadecimal digit. -/
def hexDigit? (c : Char) : Option Nat :=
  if '0' ≤ c ∧ c ≤ '9' then some (c.toNat - '0'.toNat)
  else if 'a' ≤ c ∧ c ≤ 'f' then some (c.toNat - 'a'.toNat + 10)
  else if 'A' ≤ c ∧ c ≤ 'F' then some (c.toNat - 'A'.toNat + 10)
  else none

/-- The bytes of escaped text. -/
def unescapeBytes : List Char → List UInt8
  | '%' :: c :: d :: rest =>
    match hexDigit? c, hexDigit? d with
    | some high, some low => UInt8.ofNat (16 * high + low) :: unescapeBytes rest
    | _, _ => String.utf8EncodeChar '%' ++ unescapeBytes (c :: d :: rest)
  | c :: rest => String.utf8EncodeChar c ++ unescapeBytes rest
  | [] => []

/-- Why bytes are not UTF-8, and the index of the first byte that is not part of a character. -/
inductive Utf8Fault where
  /-- The first `length` bytes at `index` can start no character. -/
  | invalid (length index : Nat)
  /-- The bytes end inside a character. -/
  | incomplete (index : Nat)
  deriving DecidableEq

/-- The text of a fault. -/
def Utf8Fault.message : Utf8Fault → String
  | .invalid length index =>
    "invalid utf-8 sequence of " ++ toString length ++ " bytes from index " ++ toString index
  | .incomplete index => "incomplete utf-8 byte sequence from index " ++ toString index

/-- Length of the character that a byte starts and the bounds of its second byte. -/
def leadByte? (b : Nat) : Option (Nat × Nat × Nat) :=
  if 0xC2 ≤ b ∧ b ≤ 0xDF then some (2, 0x80, 0xBF)
  else if b = 0xE0 then some (3, 0xA0, 0xBF)
  else if b = 0xED then some (3, 0x80, 0x9F)
  else if 0xE1 ≤ b ∧ b ≤ 0xEF then some (3, 0x80, 0xBF)
  else if b = 0xF0 then some (4, 0x90, 0xBF)
  else if 0xF1 ≤ b ∧ b ≤ 0xF3 then some (4, 0x80, 0xBF)
  else if b = 0xF4 then some (4, 0x80, 0x8F)
  else none

/-- Whether a byte continues a character. -/
def isContinuation (b : Nat) : Bool := decide (0x80 ≤ b) && decide (b ≤ 0xBF)

/-- The characters of the bytes at `index`. -/
def decodeUtf8From (index : Nat) : List UInt8 → Except Utf8Fault (List Char)
  | [] => .ok []
  | b :: rest =>
    let first := b.toNat
    if first < 0x80 then
      (decodeUtf8From (index + 1) rest).map (Char.ofNat first :: ·)
    else match leadByte? first with
      | none => .error (.invalid 1 index)
      | some (length, low, high) =>
        match rest with
        | [] => .error (.incomplete index)
        | c :: rest =>
          let second := c.toNat
          if second < low || high < second then .error (.invalid 1 index)
          else if length = 2 then
            (decodeUtf8From (index + 2) rest).map
              (Char.ofNat ((first - 0xC0) * 64 + (second - 0x80)) :: ·)
          else match rest with
            | [] => .error (.incomplete index)
            | d :: rest =>
              let third := d.toNat
              if !isContinuation third then .error (.invalid 2 index)
              else if length = 3 then
                (decodeUtf8From (index + 3) rest).map
                  (Char.ofNat (((first - 0xE0) * 64 + (second - 0x80)) * 64 + (third - 0x80)) :: ·)
              else match rest with
                | [] => .error (.incomplete index)
                | e :: rest =>
                  let fourth := e.toNat
                  if !isContinuation fourth then .error (.invalid 3 index)
                  else
                    (decodeUtf8From (index + 4) rest).map
                      (Char.ofNat ((((first - 0xF0) * 64 + (second - 0x80)) * 64
                        + (third - 0x80)) * 64 + (fourth - 0x80)) :: ·)

/-- The characters of well-formed bytes. -/
def decodeUtf8 (bytes : List UInt8) : Except Utf8Fault (List Char) := decodeUtf8From 0 bytes

/-- The number of bytes that text takes in UTF-8. -/
def utf8Length : List Char → Nat
  | [] => 0
  | c :: rest => c.utf8Size + utf8Length rest

end DocumentStore
