import DocumentStore.Proofs.Path.Lexing
import DocumentStore.Query.Filter

/-!
# Filters as they are written

A filter is written in pieces, with blanks wherever one may want them and with parentheses only
where the text would say another filter without them: `||` binds looser than `&&`, both lean to the
left, and a negation binds tighter than either.

* `FilterWord`, `FilterPiece` — the pieces of the text of a filter.
* `FilterPiece.Writes` — the characters that may stand for a piece.
* `Spaced` — pieces one after the other, with blanks in between.
* `Filter.pieces` — the pieces of a filter.
* `Filter.Writable` — the filters that have a text.
* `Left` — the text behind what was read.
* `Ends` — what stands behind a part of a filter.

Principal results: `exists_spaced` — pieces have a text.  `Spaced.next`, `Spaced.word`,
`Spaced.attached` — where the first piece of a text stands.  `Spaced.skipBlanks_of_ends`,
`Spaced.noHead` — what stands behind a part of a filter, and that no operand goes on with it.
-/

set_option autoImplicit false

namespace DocumentStore

/-! ## Pieces -/

/-- A sign or a word in the text of a filter. -/
inductive FilterWord where
  | opening
  | closing
  | negation
  | conjunction
  | disjunction
  | comparison (c : Comparator)
  | current
  | stepOpening
  | stepClosing
  | null
  | truth (b : Bool)
  | lower
  | upper
  | length

/-- A word as it is written. -/
def FilterWord.text : FilterWord → String
  | .opening => "("
  | .closing => ")"
  | .negation => "!"
  | .conjunction => "&&"
  | .disjunction => "||"
  | .comparison c => c.symbol
  | .current => "@"
  | .stepOpening => "["
  | .stepClosing => "]"
  | .null => "null"
  | .truth b => boolText b
  | .lower => "lower"
  | .upper => "upper"
  | .length => "length"

/-- A piece of the text of a filter. -/
inductive FilterPiece where
  | word (word : FilterWord)
  | quoted (text : String)
  | integer (i : Int)

/-- The characters that may stand for a piece.  A text has quotes of either kind around it, and
an integer any digits that write it. -/
inductive FilterPiece.Writes : FilterPiece → List Char → Prop
  | word (word : FilterWord) : Writes (.word word) word.text.toList
  | quoted (mark : QuoteMark) {text : String} {written : List Char}
    (escaped : Escaped mark.char written text.toList) :
    Writes (.quoted text) (mark.char :: (written ++ [mark.char]))
  | integer {n : Numeral} {i : Int} (proper : n.Proper) (value : n.toInt? = some i) :
    Writes (.integer i) n.text

/-- Pieces one after the other, with blanks before, between and behind them.  The bracket that
opens a step of a path has none before it. -/
inductive Spaced : List FilterPiece → List Char → Prop
  | done {gap : List Char} (blank : ∀ c ∈ gap, isBlank c = true) : Spaced [] gap
  | piece {piece : FilterPiece} {pieces : List FilterPiece} {gap written text : List Char}
    (blank : ∀ c ∈ gap, isBlank c = true) (attached : piece = .word .stepOpening → gap = [])
    (writes : piece.Writes written) (spaced : Spaced pieces text) :
    Spaced (piece :: pieces) (gap ++ (written ++ text))

/-! ## The pieces of a filter -/

/-- The piece of a key or an index. -/
def FilterStep.piece : FilterStep → FilterPiece
  | .key name => .quoted name
  | .index i => .integer i

/-- A key or an index in square brackets. -/
def FilterStep.pieces (step : FilterStep) : List FilterPiece :=
  [.word .stepOpening, step.piece, .word .stepClosing]

/-- The piece of a literal.  Containers and numbers with a fraction have none. -/
def literalPieces : Json → List FilterPiece
  | .null => [.word .null]
  | .bool b => [.word (.truth b)]
  | .string text => [.quoted text]
  | .number (.int n) => [.integer n.value]
  | _ => []

/-- Pieces in parentheses. -/
def parenthesized (pieces : List FilterPiece) : List FilterPiece :=
  .word .opening :: (pieces ++ [.word .closing])

/-- The pieces of an operand. -/
def Operand.pieces : Operand → List FilterPiece
  | .path steps => .word .current :: steps.flatMap FilterStep.pieces
  | .literal value => literalPieces value
  | .lower operand => .word .lower :: parenthesized operand.pieces
  | .upper operand => .word .upper :: parenthesized operand.pieces
  | .length operand => .word .length :: parenthesized operand.pieces

/-- How tightly the outermost sign of a filter binds. -/
def Filter.rank : Filter → Nat
  | .or _ _ => 0
  | .and _ _ => 1
  | .not _ | .compare _ _ _ | .truthy _ => 2

/-- Pieces as they are when they bind as tightly as they have to, else in parentheses. -/
def grouped (needed rank : Nat) (pieces : List FilterPiece) : List FilterPiece :=
  if needed ≤ rank then pieces else parenthesized pieces

/-- The pieces of a filter, with parentheses where its parts would fall apart without them. -/
def Filter.pieces : Filter → List FilterPiece
  | .compare c left right => left.pieces ++ .word (.comparison c) :: right.pieces
  | .truthy operand => operand.pieces
  | .not filter => .word .negation :: grouped 2 filter.rank filter.pieces
  | .and left right =>
    grouped 1 left.rank left.pieces ++
      .word .conjunction :: grouped 2 right.rank right.pieces
  | .or left right =>
    left.pieces ++ .word .disjunction :: grouped 1 right.rank right.pieces

/-- A step that has a text: any key, and an index of the signed range. -/
def FilterStep.Writable : FilterStep → Prop
  | .key _ => True
  | .index i => minSigned ≤ i ∧ i ≤ maxSigned

/-- A literal that has a text: null, a truth value, a text, or an integer that a double holds
without rounding, and so all between it and zero. -/
inductive WritableLiteral : Json → Prop
  | null : WritableLiteral .null
  | bool (b : Bool) : WritableLiteral (.bool b)
  | string (text : String) : WritableLiteral (.string text)
  | integer {n : Integer} (small : n.value.natAbs ≤ 2 ^ 53) : WritableLiteral (.number (.int n))

/-- An operand that has a text. -/
def Operand.Writable : Operand → Prop
  | .path steps => ∀ step ∈ steps, step.Writable
  | .literal value => WritableLiteral value
  | .lower operand | .upper operand | .length operand => operand.Writable

/-- A filter that has a text: all its operands have one. -/
def Filter.Writable : Filter → Prop
  | .compare _ left right => left.Writable ∧ right.Writable
  | .truthy operand => operand.Writable
  | .not filter => filter.Writable
  | .and left right | .or left right => left.Writable ∧ right.Writable

/-! ## Every list of pieces has a text -/

theorem Spaced.unspaced {piece : FilterPiece} {pieces : List FilterPiece}
    {written text : List Char} (spaced : Spaced pieces text) (writes : piece.Writes written) :
    Spaced (piece :: pieces) (written ++ text) :=
  have blank : ∀ c ∈ ([] : List Char), isBlank c = true := fun c hc => by cases hc
  .piece blank (fun _ => rfl) writes spaced

theorem FilterPiece.exists_writes (piece : FilterPiece) : ∃ written, piece.Writes written := by
  cases piece with
  | word word => exact ⟨_, .word word⟩
  | quoted text => exact ⟨_, .quoted .double (escaped_escapeQuoted _ text.toList)⟩
  | integer i =>
    obtain ⟨n, proper, -, value⟩ := exists_integerNumeral i
    exact ⟨_, .integer proper value⟩

/-- **Pieces have a text.** -/
theorem exists_spaced (pieces : List FilterPiece) : ∃ text, Spaced pieces text := by
  induction pieces with
  | nil => exact ⟨[], .done (fun c hc => by cases hc)⟩
  | cons piece pieces ih =>
    obtain ⟨text, spaced⟩ := ih
    obtain ⟨written, writes⟩ := piece.exists_writes
    exact ⟨_, spaced.unspaced writes⟩

/-! ## Where pieces start -/

/-- The characters that are none of those that operands start with: each begins a longer sign, or
would be taken for one, when it stands where an operand may. -/
def notOperandHeads : List Char := ['!', '(', '=']

/-- Whether a piece is the first of an operand. -/
def FilterPiece.startsOperand : FilterPiece → Bool
  | .word .current | .word .null | .word (.truth _) => true
  | .word .lower | .word .upper | .word .length => true
  | .word _ => false
  | .quoted _ | .integer _ => true

theorem FilterPiece.Writes.exists_eq_cons {piece : FilterPiece} {written : List Char}
    (h : piece.Writes written) :
    ∃ c tail, written = c :: tail ∧ isBlank c = false ∧
      (piece.startsOperand = true → c ∉ notOperandHeads) := by
  cases h with
  | word word =>
    have hword : ∃ c tail, word.text.toList = c :: tail ∧ isBlank c = false ∧
        (FilterPiece.startsOperand (.word word) = true → c ∉ notOperandHeads) := by
      cases word with
      | comparison c => cases c <;> exact ⟨_, _, rfl, by decide, by decide⟩
      | truth b => cases b <;> exact ⟨_, _, rfl, by decide, by decide⟩
      | _ => exact ⟨_, _, rfl, by decide, by decide⟩
    exact hword
  | quoted mark _ =>
    exact ⟨_, _, rfl, by cases mark <;> decide, fun _ => by cases mark <;> decide⟩
  | integer proper _ =>
    obtain ⟨c, tail, htext, hhead⟩ := Numeral.exists_text_eq_cons proper
    refine ⟨c, tail, htext, (startsPlain_of_numeral hhead).1.notBlank, fun _ hmem => ?_⟩
    simp only [notOperandHeads, List.mem_cons, List.not_mem_nil, or_false] at hmem
    obtain rfl | rfl | rfl := hmem <;> exact absurd hhead (by decide)

theorem WritableLiteral.pieces_eq {value : Json} (h : WritableLiteral value) :
    ∃ piece, literalPieces value = [piece] ∧ piece.startsOperand = true := by
  cases h <;> exact ⟨_, rfl, rfl⟩

theorem Operand.pieces_eq_cons {operand : Operand} (writable : operand.Writable) :
    ∃ piece pieces, operand.pieces = piece :: pieces ∧ piece.startsOperand = true := by
  cases operand with
  | literal value =>
    obtain ⟨piece, heq, hstart⟩ := WritableLiteral.pieces_eq writable
    exact ⟨piece, [], heq, hstart⟩
  | _ => exact ⟨_, _, rfl, rfl⟩

/-! ## Taking pieces off a text -/

/-- The text behind what was read: the pieces that are left, in fewer characters. -/
structure Left (pieces : List FilterPiece) (text rest : List Char) : Prop where
  spaced : Spaced pieces rest
  shorter : rest.length < text.length

theorem Left.of_le {pieces : List FilterPiece} {text within rest : List Char}
    (left : Left pieces within rest) (h : within.length ≤ text.length) : Left pieces text rest :=
  ⟨left.spaced, Nat.lt_of_lt_of_le left.shorter h⟩

theorem Left.trans {pieces more : List FilterPiece} {text within rest : List Char}
    (first : Left pieces text within) (second : Left more within rest) : Left more text rest :=
  second.of_le (Nat.le_of_lt first.shorter)

theorem skipBlanks_gap {gap written text : List Char} {piece : FilterPiece}
    (blank : ∀ c ∈ gap, isBlank c = true) (writes : piece.Writes written) :
    skipBlanks (gap ++ (written ++ text)) = written ++ text := by
  obtain ⟨c, tail, rfl, hc, -⟩ := writes.exists_eq_cons
  exact dropWhile_append_noHead blank (noHead_cons hc)

/-- **The first piece stands behind the blanks.** -/
theorem Spaced.next {piece : FilterPiece} {pieces : List FilterPiece} {text : List Char}
    (spaced : Spaced (piece :: pieces) text) :
    ∃ written rest, piece.Writes written ∧ skipBlanks text = written ++ rest ∧
      Left pieces text rest := by
  cases spaced with
  | @piece _ _ gap written rest blank _ writes spaced =>
    refine ⟨written, rest, writes, skipBlanks_gap blank writes, spaced, ?_⟩
    obtain ⟨c, tail, rfl, -, -⟩ := writes.exists_eq_cons
    simp only [List.length_append, List.length_cons]
    omega

theorem Spaced.word {word : FilterWord} {pieces : List FilterPiece} {text : List Char}
    (spaced : Spaced (.word word :: pieces) text) :
    ∃ rest, skipBlanks text = word.text.toList ++ rest ∧ Left pieces text rest := by
  obtain ⟨_, rest, writes, hskip, left⟩ := spaced.next
  cases writes
  exact ⟨rest, hskip, left⟩

theorem Spaced.attached {pieces : List FilterPiece} {text : List Char}
    (spaced : Spaced (.word .stepOpening :: pieces) text) :
    ∃ rest, text = '[' :: rest ∧ Left pieces text rest := by
  cases spaced with
  | @piece _ _ gap written rest _ attached writes spaced =>
    cases writes
    refine ⟨rest, by rw [attached rfl]; rfl, spaced, ?_⟩
    rw [attached rfl]
    exact Nat.lt_succ_self _

theorem Spaced.skipBlanks_eq_nil {text : List Char} (spaced : Spaced [] text) :
    skipBlanks text = [] := by
  cases spaced with
  | done blank =>
    have hall := dropWhile_append_noHead blank (noHead_nil isBlank)
    rwa [List.append_nil] at hall

theorem Spaced.trimmed {pieces : List FilterPiece} {text : List Char}
    (spaced : Spaced pieces text) : Spaced pieces (skipBlanks text) := by
  cases spaced with
  | done blank =>
    rw [Spaced.skipBlanks_eq_nil (.done blank)]
    exact .done (fun c hc => by cases hc)
  | piece blank attached writes spaced =>
    rw [skipBlanks_gap blank writes]
    exact spaced.unspaced writes

theorem Left.trimmed {pieces : List FilterPiece} {text rest : List Char}
    (left : Left pieces text rest) : Left pieces text (skipBlanks rest) :=
  ⟨left.spaced.trimmed, Nat.lt_of_le_of_lt (length_skipBlanks_le rest) left.shorter⟩

/-! ## What stands behind a part of a filter -/

/-- The word behind filters joined by `||`. -/
def FilterWord.endsOr : FilterWord → Bool
  | .closing => true
  | _ => false

/-- The words behind filters joined by `&&`. -/
def FilterWord.endsAnd : FilterWord → Bool
  | .disjunction => true
  | word => word.endsOr

/-- The words behind a filter that is joined by `&&`. -/
def FilterWord.endsNot : FilterWord → Bool
  | .conjunction => true
  | word => word.endsAnd

/-- The words behind an operand, and behind what stands in the brackets of a step. -/
def FilterWord.endsOperand : FilterWord → Bool
  | .comparison _ | .stepClosing => true
  | word => word.endsNot

/-- Nothing, or one of these words first. -/
def Ends (ends : FilterWord → Bool) : List FilterPiece → Prop
  | [] => True
  | .word word :: _ => ends word = true
  | _ => False

theorem Ends.mono {less more : FilterWord → Bool} (h : ∀ word, less word = true → more word = true)
    {pieces : List FilterPiece} (ends : Ends less pieces) : Ends more pieces := by
  match pieces, ends with
  | [], _ => exact trivial
  | .word word :: _, ends => exact h word ends

theorem FilterWord.endsAnd_of_endsOr (word : FilterWord) (h : word.endsOr = true) :
    word.endsAnd = true := by
  cases word <;> first | rfl | cases h

theorem FilterWord.endsNot_of_endsAnd (word : FilterWord) (h : word.endsAnd = true) :
    word.endsNot = true := by
  cases word <;> first | rfl | cases h

theorem FilterWord.endsOperand_of_endsNot (word : FilterWord) (h : word.endsNot = true) :
    word.endsOperand = true := by
  cases word <;> first | rfl | cases h

/-- The characters that the last piece of an operand may go on with. -/
def extendsOperand (c : Char) : Bool := isIdentifierPart c || c == '.' || c == '['

theorem extendsOperand_of_blank {c : Char} (h : isBlank c = true) : extendsOperand c = false := by
  have hne : ∀ d : Char, isBlank d = false → (c == d) = false := by
    intro d hd
    rw [beq_eq_false_iff_ne]
    rintro rfl
    rw [h] at hd
    cases hd
  simp only [extendsOperand, isIdentifierPart_of_blank h, hne '.' (by decide),
    hne '[' (by decide), Bool.or_false]

theorem FilterWord.noHead_of_endsOperand {word : FilterWord} (h : word.endsOperand = true)
    (rest : List Char) : NoHead extendsOperand (word.text.toList ++ rest) := by
  cases word with
  | comparison c => cases c <;> exact noHead_cons (by decide)
  | closing | conjunction | disjunction | stepClosing => exact noHead_cons (by decide)
  | _ => cases h

/-- What may stand behind blanks may stand before them. -/
theorem noHead_of_skipBlanks {taken : Char → Bool} (h : ∀ c, isBlank c = true → taken c = false)
    {text : List Char} (clear : NoHead taken (skipBlanks text)) : NoHead taken text := by
  rintro c tail rfl
  cases hblank : isBlank c with
  | true => exact h c hblank
  | false => exact clear c tail (by simp [skipBlanks, hblank])

/-- Behind the blanks there is nothing, or one of the words that may stand there. -/
theorem Spaced.skipBlanks_of_ends {ends : FilterWord → Bool} {pieces : List FilterPiece}
    {text : List Char} (spaced : Spaced pieces text) (h : Ends ends pieces) :
    skipBlanks text = [] ∨
      ∃ word rest, ends word = true ∧ skipBlanks text = word.text.toList ++ rest := by
  match pieces, h with
  | [], _ => exact .inl spaced.skipBlanks_eq_nil
  | .word word :: _, h =>
    obtain ⟨rest, hskip, -⟩ := spaced.word
    exact .inr ⟨word, rest, h, hskip⟩

/-- **An operand does not go on with what stands behind it.** -/
theorem Spaced.noHead {pieces : List FilterPiece} {text : List Char} (spaced : Spaced pieces text)
    (ends : Ends FilterWord.endsOperand pieces) : NoHead extendsOperand text := by
  refine noHead_of_skipBlanks (fun _ => extendsOperand_of_blank) ?_
  obtain hskip | ⟨word, rest, hword, hskip⟩ := spaced.skipBlanks_of_ends ends
  · rw [hskip]
    exact noHead_nil _
  · rw [hskip]
    exact FilterWord.noHead_of_endsOperand hword rest

end DocumentStore
