import DocumentStore.Query.Filter

/-!
# Reading queries

A query is a star, alone or with a filter in brackets.  Parameters are looked up while reading.
A reader that breaks off gives the problem and the rest of the text where it was found.

    Query   = "*" [ "[" Or "]" ]
    Or      = And { "||" And }
    And     = Not { "&&" Not }
    Not     = "!" Not | Compare
    Compare = "(" Or ")" | Operand [ Comparator Operand ]
    Operand = Text | Number | "$" Name | "@" Steps | Function "(" Operand ")" | Name Steps
    Steps   = { "." Name | "[" Text "]" | "[" Integer "]" }

* `Query`, `readQuery` — a query, and the query that a text writes.
-/

set_option autoImplicit false

namespace DocumentStore

/-- A problem, and the rest of the text where it was found. -/
abbrev Stop := QueryProblem × List Char

/-- A result and the text behind it. -/
abbrev Taken (α : Type) := α × List Char

/-- The text behind one character that must be there. -/
def expectChar (c : Char) (text : List Char) : Except Stop (List Char) :=
  match text with
  | d :: rest => if d = c then .ok rest else .error (.expected c, text)
  | [] => .error (.expected c, text)

/-- A name. -/
def readName (text : List Char) : Except Stop (Taken String) :=
  match scanIdentifier? text with
  | some (name, rest) => .ok (String.ofList name, rest)
  | none => .error (.expectedIdentifier, text)

/-- The quoted text behind its opening mark. -/
def readQuoted (mark : Char) (rest : List Char) : Except Stop (Taken String) :=
  match unquote? mark rest with
  | some (text, rest) => .ok (String.ofList text, rest)
  | none => .error (.unterminated, mark :: rest)

/-- An integer of the signed range. -/
def readInteger (text : List Char) : Except Stop (Taken Int) :=
  match Numeral.scan? text with
  | none => .error (.expectedInteger, text)
  | some (n, rest) =>
    match n.toInt? with
    | none => .error (.badInteger n.text, rest)
    | some i =>
      if minSigned ≤ i ∧ i ≤ maxSigned then .ok (i, rest)
      else .error (.badInteger n.text, rest)

/-- A number. -/
def readNumber (text : List Char) : Except Stop (Taken Number) :=
  match Numeral.scan? text with
  | none => .error (.expectedNumber, text)
  | some (n, rest) =>
    match Number.ofBinary64? n.toBinary64 with
    | some number => .ok (number, rest)
    | none => .error (.badNumber n.text, rest)

/-- What stands between the brackets of a step. -/
def readBracketStep (text : List Char) : Except Stop (Taken FilterStep) :=
  match text with
  | '"' :: rest => (readQuoted '"' rest).map (fun (key, rest) => (.key key, rest))
  | '\'' :: rest => (readQuoted '\'' rest).map (fun (key, rest) => (.key key, rest))
  | text => (readInteger text).map (fun (i, rest) => (.index i, rest))

/-- The steps behind the start of a path. -/
def readSteps (fuel : Nat) (text : List Char) : Except Stop (Taken (List FilterStep)) :=
  match fuel with
  | 0 => .ok ([], text)
  | fuel + 1 =>
    match text with
    | '.' :: rest => do
      let (name, rest) ← readName rest
      let (steps, rest) ← readSteps fuel rest
      .ok (.key name :: steps, rest)
    | '[' :: rest => do
      let (step, rest) ← readBracketStep (skipBlanks rest)
      let rest ← expectChar ']' (skipBlanks rest)
      let (steps, rest) ← readSteps fuel rest
      .ok (step :: steps, rest)
    | text => .ok ([], text)

/-- A path whose first steps are known. -/
def readPathFrom (start : List FilterStep) (text : List Char) : Except Stop (Taken Operand) := do
  let (steps, rest) ← readSteps (text.length + 1) text
  .ok (.path (start ++ steps), rest)

/-- The function of a name. -/
def functionOf? (name : String) : Option (Operand → Operand) :=
  if name = "lower" then some .lower
  else if name = "upper" then some .upper
  else if name = "length" then some .length
  else none

/-- The literal of a name. -/
def constantOf? (name : String) : Option Json :=
  if name = "true" then some (.bool true)
  else if name = "false" then some (.bool false)
  else if name = "null" then some .null
  else none

/-- The value of a parameter. -/
def readParameter (params : Fields Json) (text : List Char) : Except Stop (Taken Operand) := do
  let (name, rest) ← readName text
  match Fields.get? params name with
  | some value => .ok (.literal value, rest)
  | none => .error (.missingParameter name, rest)

/-- An operand. -/
def readOperand (params : Fields Json) (fuel : Nat) (text : List Char) :
    Except Stop (Taken Operand) :=
  match fuel with
  | 0 => .error (.badOperand, text)
  | fuel + 1 =>
    let start := skipBlanks text
    match start with
    | [] => .error (.badOperand, start)
    | c :: rest =>
      if c = '"' ∨ c = '\'' then
        (readQuoted c rest).map (fun (text, rest) => (.literal (.string text), rest))
      else if c = '-' ∨ isAsciiDigit c then
        (readNumber start).map (fun (n, rest) => (.literal (.number n), rest))
      else if c = '$' then readParameter params rest
      else if c = '@' then readPathFrom [] rest
      else match scanIdentifier? start with
        | none => .error (.badOperand, start)
        | some (chars, rest) =>
          let name := String.ofList chars
          match constantOf? name with
          | some value => .ok (.literal value, rest)
          | none =>
            match skipBlanks rest with
            | '(' :: rest =>
              match functionOf? name with
              | none => .error (.unknownFunction name, start)
              | some wrap => do
                let (operand, rest) ← readOperand params fuel rest
                let rest ← expectChar ')' (skipBlanks rest)
                .ok (wrap operand, rest)
            | rest => readPathFrom [.key name] rest

/-- The comparison signs, in the order in which they are tried. -/
def comparisonSigns : List (String × Comparator) :=
  [("==", .eq), ("!=", .ne), ("<=", .le), (">=", .ge), ("<", .lt), (">", .gt)]

/-- The comparison sign at the start of a text. -/
def nextComparator? (text : List Char) : Option (Comparator × List Char) :=
  comparisonSigns.findSome? (fun (symbol, c) => (after? symbol.toList text).map (c, ·))

mutual

/-- Filters joined by `||`, the loosest sign. -/
def readOr (params : Fields Json) (fuel : Nat) (text : List Char) : Except Stop (Taken Filter) :=
  match fuel with
  | 0 => .error (.badOperand, text)
  | fuel + 1 => do
    let (left, rest) ← readAnd params fuel text
    readOrTail params fuel left rest

/-- More filters joined to the first by `||`. -/
def readOrTail (params : Fields Json) (fuel : Nat) (left : Filter) (text : List Char) :
    Except Stop (Taken Filter) :=
  match fuel with
  | 0 => .error (.badOperand, text)
  | fuel + 1 =>
    match after? "||".toList (skipBlanks text) with
    | some rest => do
      let (right, rest) ← readAnd params fuel rest
      readOrTail params fuel (.or left right) rest
    | none => .ok (left, skipBlanks text)

/-- Filters joined by `&&`. -/
def readAnd (params : Fields Json) (fuel : Nat) (text : List Char) : Except Stop (Taken Filter) :=
  match fuel with
  | 0 => .error (.badOperand, text)
  | fuel + 1 => do
    let (left, rest) ← readNot params fuel text
    readAndTail params fuel left rest

/-- More filters joined to the first by `&&`. -/
def readAndTail (params : Fields Json) (fuel : Nat) (left : Filter) (text : List Char) :
    Except Stop (Taken Filter) :=
  match fuel with
  | 0 => .error (.badOperand, text)
  | fuel + 1 =>
    match after? "&&".toList (skipBlanks text) with
    | some rest => do
      let (right, rest) ← readNot params fuel rest
      readAndTail params fuel (.and left right) rest
    | none => .ok (left, skipBlanks text)

/-- A negation, or what it may stand before. -/
def readNot (params : Fields Json) (fuel : Nat) (text : List Char) : Except Stop (Taken Filter) :=
  match fuel with
  | 0 => .error (.badOperand, text)
  | fuel + 1 =>
    match skipBlanks text with
    | '!' :: rest => (readNot params fuel rest).map (fun (filter, rest) => (.not filter, rest))
    | text => readCompare params fuel text

/-- A filter in parentheses, a comparison, or an operand alone. -/
def readCompare (params : Fields Json) (fuel : Nat) (text : List Char) :
    Except Stop (Taken Filter) :=
  match fuel with
  | 0 => .error (.badOperand, text)
  | fuel + 1 =>
    match text with
    | '(' :: rest => do
      let (filter, rest) ← readOr params fuel rest
      let rest ← expectChar ')' (skipBlanks rest)
      .ok (filter, rest)
    | text => do
      let (left, rest) ← readOperand params fuel text
      match nextComparator? (skipBlanks rest) with
      | none => .ok (.truthy left, skipBlanks rest)
      | some (comparator, rest) =>
        let (right, rest) ← readOperand params fuel rest
        .ok (.compare comparator left right, rest)

end

/-- Enough fuel for a text: each character lets at most four rules through before it is taken. -/
def filterFuel (text : List Char) : Nat := 5 * text.length + 5

/-- The filter at the start of a text. -/
def readFilter (params : Fields Json) (text : List Char) : Except Stop (Taken Filter) :=
  readOr params (filterFuel text) text

/-- A query: all documents, or those of which a filter holds. -/
structure Query where
  filter : Option Filter
  deriving DecidableEq

/-- Whether a value is in the result of a query. -/
def Query.accepts (query : Query) (value : Json) : Bool :=
  match query.filter with
  | some filter => filter.holds value
  | none => true

/-- The filter in brackets, if there is one, and the text behind it. -/
def readBracketed (params : Fields Json) (text : List Char) :
    Except Stop (Taken (Option Filter)) :=
  match text with
  | '[' :: rest => do
    let (filter, rest) ← readFilter params rest
    let rest ← expectChar ']' (skipBlanks rest)
    .ok (some filter, rest)
  | text => .ok (none, text)

/-- The query that a whole text writes. -/
def readQuery (params : Fields Json) (text : List Char) : Except Stop Query := do
  let rest ← expectChar '*' (skipBlanks text)
  let (filter, rest) ← readBracketed params (skipBlanks rest)
  match skipBlanks rest with
  | [] => .ok ⟨filter⟩
  | rest => .error (.trailing, rest)

/-- The query that a text writes, or the fault with the place of its problem. -/
def Query.ofText (params : Fields Json) (text : String) : Except Fault Query :=
  match readQuery params text.toList with
  | .ok query => .ok query
  | .error (problem, rest) =>
    .error (.query (.malformed text (utf8Length text.toList - utf8Length rest) problem))

end DocumentStore
