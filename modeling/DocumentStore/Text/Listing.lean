import DocumentStore.Text.Hidden

/-!
# Text in listings

How a string is shown where tokens and trees are listed: between double quotes, with short
escapes for the usual controls and the code point of every other hidden character.
-/

set_option autoImplicit false

namespace DocumentStore

/-- One character of a listed string. -/
def listingChar (c : Char) : List Char :=
  match c with
  | '"' => ['\\', '"']
  | '\\' => ['\\', '\\']
  | '\n' => ['\\', 'n']
  | '\r' => ['\\', 'r']
  | '\t' => ['\\', 't']
  | c =>
    if c.toNat = 0 then ['\\', '0']
    else if isHidden c then "\\u\x7b".toList ++ Nat.toDigits 16 c.toNat ++ "\x7d".toList
    else [c]

/-- A string as it is listed. -/
def listingText (text : String) : String :=
  String.ofList ('"' :: (text.toList.flatMap listingChar ++ ['"']))

end DocumentStore
