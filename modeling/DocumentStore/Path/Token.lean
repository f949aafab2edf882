import DocumentStore.Binary64.Layout
import DocumentStore.Text.Listing

/-!
# Path tokens

The words that paths are made of, and how each is shown in a listing of tokens.

* `Comparator` — the six comparison signs.
* `Token` — one word of a path.
* `Token.listing` — the word as it is listed.
-/

set_option autoImplicit false

namespace DocumentStore

/-- A comparison sign. -/
inductive Comparator where
  | gt
  | ge
  | lt
  | le
  | eq
  | ne
  deriving DecidableEq

/-- A comparison sign as it is written. -/
def Comparator.symbol : Comparator → String
  | .gt => ">"
  | .ge => ">="
  | .lt => "<"
  | .le => "<="
  | .eq => "=="
  | .ne => "!="

/-- A sign that joins the parts of a path. -/
inductive Joint where
  | descent
  | dot
  | comma
  | colon
  | question
  deriving DecidableEq

/-- A joint as it is written. -/
def Joint.symbol : Joint → String
  | .descent => ".."
  | .dot => "."
  | .comma => ","
  | .colon => ":"
  | .question => "?"

/-- One of the two signs for the value being looked at. -/
inductive AliasSign where
  | dollar
  | atSign
  deriving DecidableEq

/-- An alias as it is written. -/
def AliasSign.symbol : AliasSign → String
  | .dollar => "$"
  | .atSign => "@"

/-- A square bracket. -/
inductive Bracket where
  | opening
  | closing
  deriving DecidableEq

/-- A bracket as it is written. -/
def Bracket.symbol : Bracket → String
  | .opening => "["
  | .closing => "]"

/-- The mark around a quoted text. -/
inductive QuoteMark where
  | single
  | double
  deriving DecidableEq

/-- A quotation mark as it is written. -/
def QuoteMark.char : QuoteMark → Char
  | .single => '\''
  | .double => '"'

/-- The name of a quotation mark in a listing. -/
def QuoteMark.name : QuoteMark → String
  | .single => "Single"
  | .double => "Double"

/-- A word of a path. -/
inductive Token where
  | identifier (name : String)
  | number (numeral : Numeral)
  | quoted (text : String) (mark : QuoteMark)
  | joint (joint : Joint)
  | comparator (comparator : Comparator)
  | alias (sign : AliasSign)
  | boolean (b : Bool)
  | bracket (bracket : Bracket)
  deriving DecidableEq

/-- The text of a truth value. -/
def boolText (b : Bool) : String := if b then "true" else "false"

/-- A word as it is listed. -/
def Token.listing : Token → String
  | .identifier name => "Identifier(" ++ listingText name ++ ")"
  | .number n =>
    "Number \x7b value: " ++ String.ofList (NumberLayout.listing.text n.toBinary64)
      ++ ", raw: " ++ listingText (String.ofList n.text) ++ " \x7d"
  | .quoted text mark =>
    "Quoted \x7b value: " ++ listingText text ++ ", quote: " ++ mark.name ++ " \x7d"
  | .joint j => "Operator(" ++ listingText j.symbol ++ ")"
  | .comparator c => "Comparator(" ++ listingText c.symbol ++ ")"
  | .alias sign => "Keyword(" ++ listingText sign.symbol ++ ")"
  | .boolean b => "Boolean(" ++ boolText b ++ ")"
  | .bracket b => "Paren('" ++ b.symbol ++ "')"

end DocumentStore
