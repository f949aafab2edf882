import DocumentStore.Text.Digit
import DocumentStore.Text.Leading
import DocumentStore.Text.Utf8

/-!
# Drafts of JSON

A draft is a JSON text taken apart but not yet judged: numbers are their digits, and escaped code
units are not yet joined to characters.  What a reader ignores is only held to the form of a
draft, so a number out of range or half a surrogate pair is no fault there.

* `Draft` — the parts of a text.
* `Draft.ofText?` — the draft of a whole text.
-/

set_option autoImplicit false

namespace DocumentStore

/-- A piece of a string: a character, or an escaped code unit of 16 bits. -/
inductive Piece where
  | char (c : Char)
  | unit (code : Nat)
  deriving DecidableEq

/-- A written number.  The exponent is its sign and digits. -/
structure NumberDraft where
  negative : Bool
  whole : List Char
  fraction : Option (List Char)
  exponent : Option (Bool × List Char)
  deriving DecidableEq

/-- A JSON text taken apart. -/
inductive Draft where
  | null
  | bool (b : Bool)
  | number (n : NumberDraft)
  | string (pieces : List Piece)
  | array (items : List Draft)
  | object (fields : List (List Piece × Draft))

namespace Draft

/-- Whether a character may stand between the parts of a JSON text. -/
def isBlankJson (c : Char) : Bool := c == ' ' || c == '\n' || c == '\t' || c == '\r'

/-- Text without its leading blanks. -/
def trim (text : List Char) : List Char := text.dropWhile isBlankJson

/-- Four hexadecimal digits. -/
def hexUnit? : List Char → Option (Nat × List Char)
  | a :: b :: c :: d :: rest => do
    let a ← hexDigit? a
    let b ← hexDigit? b
    let c ← hexDigit? c
    let d ← hexDigit? d
    some (((a * 16 + b) * 16 + c) * 16 + d, rest)
  | _ => none

/-- The character that a short escape stands for. -/
def shortEscape? (c : Char) : Option Char :=
  match c with
  | '"' => some '"'
  | '\\' => some '\\'
  | '/' => some '/'
  | 'b' => some (Char.ofNat 8)
  | 'f' => some (Char.ofNat 12)
  | 'n' => some '\n'
  | 'r' => some '\r'
  | 't' => some '\t'
  | _ => none

/-- The pieces of a string up to its closing quote, and the text behind it. -/
def stringBody? (fuel : Nat) (text : List Char) : Option (List Piece × List Char) :=
  match fuel, text with
  | 0, _ => none
  | _, [] => none
  | fuel + 1, c :: rest =>
    if c = '"' then some ([], rest)
    else if c.toNat < 0x20 then none
    else if c = '\\' then
      match rest with
      | [] => none
      | 'u' :: rest => do
        let (code, rest) ← hexUnit? rest
        let (pieces, rest) ← stringBody? fuel rest
        some (.unit code :: pieces, rest)
      | d :: rest => do
        let e ← shortEscape? d
        let (pieces, rest) ← stringBody? fuel rest
        some (.char e :: pieces, rest)
    else do
      let (pieces, rest) ← stringBody? fuel rest
      some (.char c :: pieces, rest)

/-- One or more digits. -/
def digits? (text : List Char) : Option (List Char × List Char) :=
  match text.takeWhile isAsciiDigit with
  | [] => none
  | digits => some (digits, text.dropWhile isAsciiDigit)

/-- The whole part of a number: a zero alone, or digits that do not start with one. -/
def whole? (text : List Char) : Option (List Char × List Char) := do
  let (digits, rest) ← digits? text
  if digits.head? == some '0' && digits.length != 1 then none else some (digits, rest)

/-- The fraction of a number, if there is one; `none` when digits are missing. -/
def fraction? : List Char → Option (Option (List Char) × List Char)
  | '.' :: rest => (digits? rest).map (fun (digits, rest) => (some digits, rest))
  | text => some (none, text)

/-- The exponent of a number, if there is one; `none` when digits are missing. -/
def exponent? : List Char → Option (Option (Bool × List Char) × List Char)
  | c :: rest =>
    if c = 'e' ∨ c = 'E' then
      let (negative, rest) := match rest with
        | '-' :: rest => (true, rest)
        | '+' :: rest => (false, rest)
        | rest => (false, rest)
      (digits? rest).map (fun (digits, rest) => (some (negative, digits), rest))
    else some (none, c :: rest)
  | [] => some (none, [])

/-- A number. -/
def number? (text : List Char) : Option (NumberDraft × List Char) := do
  let (negative, text) := match text with
    | '-' :: rest => (true, rest)
    | text => (false, text)
  let (whole, rest) ← whole? text
  let (fraction, rest) ← fraction? rest
  let (exponent, rest) ← exponent? rest
  some (⟨negative, whole, fraction, exponent⟩, rest)

/-- The key of a field and the colon behind it. -/
def key? (text : List Char) : Option (List Piece × List Char) := do
  let rest ← after? ['"'] (trim text)
  let (pieces, rest) ← stringBody? (rest.length + 1) rest
  let rest ← after? [':'] (trim rest)
  some (pieces, rest)

mutual

/-- The draft at the start of a text, and the text behind it. -/
def value? : Nat → List Char → Option (Draft × List Char)
  | 0, _ => none
  | fuel + 1, text =>
    match trim text with
    | [] => none
    | '"' :: rest => (stringBody? (rest.length + 1) rest).map (fun (s, rest) => (.string s, rest))
    | '[' :: rest =>
      match trim rest with
      | ']' :: rest => some (.array [], rest)
      | rest => (items? fuel rest).map (fun (items, rest) => (.array items, rest))
    | '\x7b' :: rest =>
      match trim rest with
      | '\x7d' :: rest => some (.object [], rest)
      | rest => (fields? fuel rest).map (fun (fields, rest) => (.object fields, rest))
    | text =>
      match after? "null".toList text with
      | some rest => some (.null, rest)
      | none => match after? "true".toList text with
        | some rest => some (.bool true, rest)
        | none => match after? "false".toList text with
          | some rest => some (.bool false, rest)
          | none => (number? text).map (fun (n, rest) => (.number n, rest))

/-- One or more items and the closing bracket. -/
def items? : Nat → List Char → Option (List Draft × List Char)
  | 0, _ => none
  | fuel + 1, text => do
    let (item, rest) ← value? fuel text
    match trim rest with
    | ',' :: rest =>
      let (items, rest) ← items? fuel rest
      some (item :: items, rest)
    | ']' :: rest => some ([item], rest)
    | _ => none

/-- One or more fields and the closing brace. -/
def fields? : Nat → List Char → Option (List (List Piece × Draft) × List Char)
  | 0, _ => none
  | fuel + 1, text => do
    let (key, rest) ← key? text
    let (value, rest) ← value? fuel rest
    match trim rest with
    | ',' :: rest =>
      let (fields, rest) ← fields? fuel rest
      some ((key, value) :: fields, rest)
    | '\x7d' :: rest => some ([(key, value)], rest)
    | _ => none

end

/-- The draft of a whole text. -/
def ofText? (text : String) : Option Draft :=
  let chars := text.toList
  match value? (2 * chars.length + 2) chars with
  | some (draft, rest) => if (trim rest).isEmpty then some draft else none
  | none => none

end Draft

end DocumentStore
