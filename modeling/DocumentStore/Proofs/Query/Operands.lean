import DocumentStore.Proofs.Query.Writing
import DocumentStore.Query.Reader

/-!
# Operands read back

An operand is read from any text of its pieces, provided that what stands behind them ends it: a
comparison sign, a joint, a closing bracket, or nothing.

* `Operand.Reads` — an operand is read from every text of its pieces.

Principal results: `readSteps_spaced` — the steps of a path are read.  `Operand.reads` — so is every
operand that has a text.  `nextComparator?_symbol` — and the comparison sign behind it.
-/

set_option autoImplicit false

namespace DocumentStore

/-! ## Quoted texts and integers -/

theorem expectChar_self (c : Char) (rest : List Char) : expectChar c (c :: rest) = .ok rest :=
  if_pos rfl

theorem readQuoted_escaped (mark : QuoteMark) {text : String} {written : List Char}
    (escaped : Escaped mark.char written text.toList) (rest : List Char) :
    readQuoted mark.char (written ++ [mark.char] ++ rest) = .ok (text, rest) := by
  have hmark : mark.char ≠ '\\' := by cases mark <;> decide
  rw [readQuoted, List.append_assoc, List.singleton_append, escaped.unquote?_eq hmark]
  simp only [String.ofList_toList]

theorem extendsOperand_of_numeral (c : Char) (h : extendsNumeral c = true) :
    extendsOperand c = true := by
  simp only [extendsNumeral, Bool.or_eq_true] at h
  obtain h | h := h
  · simp [extendsOperand, isIdentifierPart, h]
  · simp [extendsOperand, h]

theorem extendsOperand_of_word (c : Char) (h : isIdentifierPart c = true) :
    extendsOperand c = true := by
  simp [extendsOperand, h]

theorem readInteger_numeral {n : Numeral} {i : Int} (proper : n.Proper) (value : n.toInt? = some i)
    (range : minSigned ≤ i ∧ i ≤ maxSigned) {rest : List Char}
    (clear : NoHead extendsNumeral rest) :
    readInteger (n.text ++ rest) = .ok (i, rest) := by
  simp only [readInteger, Numeral.scan?_text proper clear, value, if_pos range]

theorem readNumber_numeral {n : Numeral} {m : Integer} (proper : n.Proper)
    (value : n.toInt? = some m.value) (small : m.value.natAbs ≤ 2 ^ 53) {rest : List Char}
    (clear : NoHead extendsNumeral rest) :
    readNumber (n.text ++ rest) = .ok (.int m, rest) := by
  obtain ⟨x, hx, hintegral, htruncate⟩ := Numeral.toBinary64_of_toInt? value small
  have hrange : minSigned ≤ m.value ∧ m.value ≤ maxSigned := by
    unfold minSigned maxSigned
    omega
  have hmin : min m.value maxSigned = m.value := by omega
  have hnumber : Number.ofBinary64? n.toBinary64 = some (.int m) := by
    have hhigh : m.value ≤ maxSigned + 1 := by omega
    simp only [hx, Number.ofBinary64?, hintegral, htruncate, hrange.1, hhigh, decide_true,
      Bool.and_self, if_true, hmin, Number.ofInt?, m.inRange, and_self, dif_pos]
  simp only [readNumber, Numeral.scan?_text proper clear, hnumber]

/-! ## Paths -/

theorem readBracketStep_writes {step : FilterStep} (writable : step.Writable) {written : List Char}
    (writes : step.piece.Writes written) {rest : List Char} (clear : NoHead extendsOperand rest) :
    readBracketStep (written ++ rest) = .ok (step, rest) := by
  cases step with
  | key name =>
    cases writes with
    | quoted mark escaped =>
      have hread := readQuoted_escaped mark escaped rest
      rw [List.cons_append]
      cases mark <;> simp only [QuoteMark.char] at hread ⊢ <;>
        simp only [readBracketStep, hread, Except.map]
  | index i =>
    cases writes with
    | integer proper value =>
      have hread := readInteger_numeral proper value writable (clear.mono extendsOperand_of_numeral)
      obtain ⟨c, tail, hnumeral, hhead⟩ := Numeral.exists_text_eq_cons proper
      rw [hnumeral, List.cons_append] at hread ⊢
      unfold readBracketStep
      split
      · next h => cases h; exact absurd hhead (by decide)
      · next h => cases h; exact absurd hhead (by decide)
      · rw [hread]
        rfl

theorem FilterStep.reads {step : FilterStep} (writable : step.Writable)
    {more : List FilterPiece} {text : List Char} (spaced : Spaced (step.pieces ++ more) text) :
    ∃ within behind rest, text = '[' :: within ∧
      readBracketStep (skipBlanks within) = .ok (step, behind) ∧
      skipBlanks behind = ']' :: rest ∧ Left more text rest := by
  obtain ⟨within, htext, opened⟩ := spaced.attached
  obtain ⟨_, behind, writes, hwithin, left⟩ := opened.spaced.next
  obtain ⟨rest, hclose, closed⟩ := left.spaced.word
  have hread := readBracketStep_writes writable writes (left.spaced.noHead rfl)
  exact ⟨within, behind, rest, htext, hwithin ▸ hread, hclose,
    (opened.trans left).trans closed⟩

/-- No step starts with what stands behind an operand. -/
theorem readSteps_done {text : List Char} (clear : NoHead extendsOperand text) (fuel : Nat) :
    readSteps fuel text = .ok ([], text) := by
  cases fuel with
  | zero => rfl
  | succ fuel =>
    unfold readSteps
    split
    · next rest => exact absurd (clear '.' rest rfl) (by decide)
    · next rest => exact absurd (clear '[' rest rfl) (by decide)
    · rfl

/-- **The steps of a path are read**, each up to its closing bracket. -/
theorem readSteps_spaced {more : List FilterPiece} (ends : Ends FilterWord.endsOperand more) :
    ∀ {steps : List FilterStep}, (∀ step ∈ steps, step.Writable) →
      ∀ {fuel : Nat} {text : List Char}, text.length < fuel →
      Spaced (steps.flatMap FilterStep.pieces ++ more) text →
      ∃ rest, readSteps fuel text = .ok (steps, rest) ∧ Spaced more rest ∧
        rest.length ≤ text.length
  | [], _, fuel, text, _, spaced =>
    ⟨text, readSteps_done (spaced.noHead ends) fuel, spaced, Nat.le_refl _⟩
  | step :: steps, writable, 0, _, enough, _ => absurd enough (Nat.not_lt_zero _)
  | step :: steps, writable, fuel + 1, text, enough, spaced => by
    rw [List.flatMap_cons, List.append_assoc] at spaced
    obtain ⟨within, behind, rest, rfl, hstep, hclose, left⟩ :=
      FilterStep.reads (writable step List.mem_cons_self) spaced
    have hfuel : rest.length < fuel := by
      have := left.shorter
      omega
    obtain ⟨rest', hsteps, spaced', hle⟩ := readSteps_spaced ends
      (fun s hs => writable s (List.mem_cons_of_mem _ hs)) hfuel left.spaced
    refine ⟨rest', ?_, spaced', Nat.le_trans hle (Nat.le_of_lt left.shorter)⟩
    simp only [readSteps, hstep, hclose, expectChar_self, hsteps, bind, Except.bind]

/-! ## How an operand starts -/

variable (params : Fields Json) (fuel : Nat)

theorem readOperand_quoted (mark : QuoteMark) {text tail : List Char}
    (h : skipBlanks text = mark.char :: tail) :
    readOperand params (fuel + 1) text =
      (readQuoted mark.char tail).map (fun (text, rest) => (.literal (.string text), rest)) := by
  rw [readOperand, h]
  cases mark <;> rfl

theorem readOperand_numeral {c : Char} {text tail : List Char} (h : skipBlanks text = c :: tail)
    (hc : c = '-' ∨ isAsciiDigit c = true) :
    readOperand params (fuel + 1) text =
      (readNumber (c :: tail)).map (fun (n, rest) => (.literal (.number n), rest)) := by
  have hquote : ¬ (c = '"' ∨ c = '\'') := by
    rintro (rfl | rfl) <;> exact absurd hc (by decide)
  rw [readOperand, h]
  simp only [if_neg hquote, if_pos hc]

theorem readOperand_current {text tail : List Char} (h : skipBlanks text = '@' :: tail) :
    readOperand params (fuel + 1) text = readPathFrom [] tail := by
  rw [readOperand, h]
  rfl

theorem not_sign_of_word {c : Char} (h : isIdentifierStart c = true) :
    ¬ (c = '"' ∨ c = '\'') ∧ ¬ (c = '-' ∨ isAsciiDigit c = true) ∧ c ≠ '$' ∧ c ≠ '@' := by
  refine ⟨?_, ?_, ?_, ?_⟩
  · rintro (rfl | rfl) <;> exact absurd h (by decide)
  · rintro (rfl | hdigit)
    · exact absurd h (by decide)
    · rw [isIdentifierStart_of_digit hdigit] at h
      cases h
  · rintro rfl
    exact absurd h (by decide)
  · rintro rfl
    exact absurd h (by decide)

/-- Whether characters are a name. -/
def isName : List Char → Bool
  | [] => false
  | c :: rest => isIdentifierStart c && rest.all isIdentifierPart

/-- The words with a meaning of their own. -/
def knownNames : List String := ["true", "false", "null", "lower", "upper", "length"]

theorem scanIdentifier?_known {name : String} (h : name ∈ knownNames) {rest : List Char}
    (clear : NoHead isIdentifierPart rest) :
    ∃ c word, name.toList = c :: word ∧ isIdentifierStart c = true ∧
      scanIdentifier? (c :: (word ++ rest)) = some (c :: word, rest) := by
  have hall : ∀ name ∈ knownNames, isName name.toList = true := by decide
  have hname := hall name h
  cases hchars : name.toList with
  | nil => simp [hchars, isName] at hname
  | cons c word =>
    rw [hchars] at hname
    simp only [isName, Bool.and_eq_true] at hname
    exact ⟨c, word, rfl, hname.1,
      scanIdentifier?_append hname.1 (List.all_eq_true.1 hname.2) clear⟩

theorem mem_knownNames_of_constant {name : String} {value : Json}
    (h : constantOf? name = some value) : name ∈ knownNames := by
  unfold constantOf? at h
  split at h
  · simp [*, knownNames]
  · split at h
    · simp [*, knownNames]
    · split at h
      · simp [*, knownNames]
      · cases h

theorem mem_knownNames_of_function {name : String} {wrap : Operand → Operand}
    (h : functionOf? name = some wrap) : name ∈ knownNames ∧ constantOf? name = none := by
  unfold functionOf? at h
  split at h
  · next hname => exact ⟨by simp [hname, knownNames], by rw [hname]; rfl⟩
  · split at h
    · next hname => exact ⟨by simp [hname, knownNames], by rw [hname]; rfl⟩
    · split at h
      · next hname => exact ⟨by simp [hname, knownNames], by rw [hname]; rfl⟩
      · cases h

theorem readOperand_constant {name : String} {value : Json} (hvalue : constantOf? name = some value)
    {text rest : List Char} (h : skipBlanks text = name.toList ++ rest)
    (clear : NoHead isIdentifierPart rest) :
    readOperand params (fuel + 1) text = .ok (.literal value, rest) := by
  obtain ⟨c, word, hname, hstart, hscan⟩ :=
    scanIdentifier?_known (mem_knownNames_of_constant hvalue) clear
  obtain ⟨hquote, hnumber, hdollar, hcurrent⟩ := not_sign_of_word hstart
  have hvalue : constantOf? (String.ofList (c :: word)) = some value := by
    rw [← hname, String.ofList_toList, hvalue]
  rw [readOperand, h, hname]
  simp only [List.cons_append, if_neg hquote, if_neg hnumber, if_neg hdollar, if_neg hcurrent,
    hscan, hvalue]

theorem readOperand_call {name : String} {wrap : Operand → Operand}
    (hwrap : functionOf? name = some wrap) {text rest within behind after : List Char}
    {operand : Operand} (h : skipBlanks text = name.toList ++ rest)
    (clear : NoHead isIdentifierPart rest) (hopen : skipBlanks rest = '(' :: within)
    (hoperand : readOperand params fuel within = .ok (operand, behind))
    (hclose : skipBlanks behind = ')' :: after) :
    readOperand params (fuel + 1) text = .ok (wrap operand, after) := by
  obtain ⟨hknown, hconstant⟩ := mem_knownNames_of_function hwrap
  obtain ⟨c, word, hname, hstart, hscan⟩ := scanIdentifier?_known hknown clear
  obtain ⟨hquote, hnumber, hdollar, hcurrent⟩ := not_sign_of_word hstart
  have hsame : String.ofList (c :: word) = name := by rw [← hname, String.ofList_toList]
  rw [readOperand, h, hname]
  simp only [List.cons_append, if_neg hquote, if_neg hnumber, if_neg hdollar, if_neg hcurrent,
    hscan, hsame, hconstant, hopen, hwrap, hoperand, hclose, expectChar_self, bind, Except.bind]

/-! ## Operands -/

/-- An operand is read from every text of its pieces, up to what stands behind them. -/
def Operand.Reads (operand : Operand) : Prop :=
  ∀ more : List FilterPiece, Ends FilterWord.endsOperand more →
    ∀ {fuel : Nat} {text : List Char}, text.length < fuel →
    Spaced (operand.pieces ++ more) text →
    ∃ rest, readOperand params fuel text = .ok (operand, rest) ∧ Left more text rest

theorem path_reads {steps : List FilterStep} (writable : ∀ step ∈ steps, step.Writable) :
    Operand.Reads params (.path steps) := by
  intro more ends fuel text enough spaced
  obtain ⟨fuel, rfl⟩ := Nat.exists_eq_add_one_of_ne_zero (Nat.ne_zero_of_lt enough)
  obtain ⟨within, hskip, left⟩ := Spaced.word spaced
  have hskip : skipBlanks text = '@' :: within := hskip
  obtain ⟨rest, hsteps, spaced, hle⟩ :=
    readSteps_spaced ends writable (Nat.lt_succ_self within.length) left.spaced
  refine ⟨rest, ?_, spaced, Nat.lt_of_le_of_lt hle left.shorter⟩
  rw [readOperand_current params fuel hskip]
  simp only [readPathFrom, hsteps, bind, Except.bind, List.nil_append]

theorem literal_reads {value : Json} (writable : WritableLiteral value) :
    Operand.Reads params (.literal value) := by
  intro more ends fuel text enough spaced
  obtain ⟨fuel, rfl⟩ := Nat.exists_eq_add_one_of_ne_zero (Nat.ne_zero_of_lt enough)
  have constant (word : FilterWord) (hvalue : constantOf? word.text = some value)
      (spaced : Spaced (.word word :: more) text) :
      ∃ rest, readOperand params (fuel + 1) text = .ok (.literal value, rest) ∧
        Left more text rest := by
    obtain ⟨rest, hskip, left⟩ := spaced.word
    have clear := (left.spaced.noHead ends).mono extendsOperand_of_word
    exact ⟨rest, readOperand_constant params fuel hvalue hskip clear, left⟩
  cases writable with
  | null => exact constant .null rfl spaced
  | bool b => exact constant (.truth b) (by cases b <;> rfl) spaced
  | string content =>
    obtain ⟨_, rest, writes, hskip, left⟩ := Spaced.next spaced
    refine ⟨rest, ?_, left⟩
    cases writes with
    | quoted mark escaped =>
      rw [List.cons_append] at hskip
      rw [readOperand_quoted params fuel mark hskip, readQuoted_escaped mark escaped]
      rfl
  | integer small =>
    obtain ⟨_, rest, writes, hskip, left⟩ := Spaced.next spaced
    refine ⟨rest, ?_, left⟩
    cases writes with
    | integer proper value =>
      have clear := (left.spaced.noHead ends).mono extendsOperand_of_numeral
      have hread := readNumber_numeral proper value small clear
      obtain ⟨c, tail, hnumeral, hhead⟩ := Numeral.exists_text_eq_cons proper
      rw [hnumeral, List.cons_append] at hskip hread
      rw [readOperand_numeral params fuel hskip hhead, hread]
      rfl

theorem call_reads (word : FilterWord) {wrap : Operand → Operand}
    (hwrap : functionOf? word.text = some wrap) {operand : Operand}
    (hpieces : (wrap operand).pieces = .word word :: parenthesized operand.pieces)
    (reads : operand.Reads params) : (wrap operand).Reads params := by
  intro more ends fuel text enough spaced
  obtain ⟨fuel, rfl⟩ := Nat.exists_eq_add_one_of_ne_zero (Nat.ne_zero_of_lt enough)
  rw [hpieces, parenthesized, List.cons_append, List.cons_append, List.append_assoc,
    List.singleton_append] at spaced
  obtain ⟨rest, hskip, named⟩ := spaced.word
  obtain ⟨within, hopen, opened⟩ := named.spaced.word
  have clear : NoHead isIdentifierPart rest := by
    refine (noHead_of_skipBlanks (fun _ => extendsOperand_of_blank) ?_).mono extendsOperand_of_word
    rw [hopen]
    exact noHead_cons (by decide)
  have hfuel : within.length < fuel := by
    have := (named.trans opened).shorter
    omega
  obtain ⟨behind, hoperand, taken⟩ := reads (.word .closing :: more) rfl hfuel opened.spaced
  obtain ⟨after, hclose, closed⟩ := taken.spaced.word
  exact ⟨after, readOperand_call params fuel hwrap hskip clear hopen hoperand hclose,
    ((named.trans opened).trans taken).trans closed⟩

/-- **Every operand that has a text is read from it.** -/
theorem Operand.reads {operand : Operand} (writable : operand.Writable) :
    operand.Reads params := by
  induction operand with
  | path steps => exact path_reads params writable
  | literal value => exact literal_reads params writable
  | lower operand ih => exact call_reads params .lower rfl rfl (ih writable)
  | upper operand ih => exact call_reads params .upper rfl rfl (ih writable)
  | length operand ih => exact call_reads params .length rfl rfl (ih writable)

/-! ## Comparison signs -/

/-- **The sign written is the sign found**, though some signs start with others. -/
theorem nextComparator?_symbol (c : Comparator) {rest : List Char}
    (clear : NoHead (· == '=') rest) :
    nextComparator? (c.symbol.toList ++ rest) = some (c, rest) := by
  cases rest with
  | nil => cases c <;> rfl
  | cons d tail =>
    have hd : d ≠ '=' := by simpa using clear d tail rfl
    cases c <;> simp [nextComparator?, comparisonSigns, after?, Comparator.symbol, hd.symm]

/-- No comparison sign stands behind a filter that is joined by `&&`. -/
theorem nextComparator?_of_ends {pieces : List FilterPiece} {text : List Char}
    (spaced : Spaced pieces text) (ends : Ends FilterWord.endsNot pieces) :
    nextComparator? (skipBlanks text) = none := by
  obtain hskip | ⟨word, rest, hword, hskip⟩ := spaced.skipBlanks_of_ends ends
  · rw [hskip]
    rfl
  · rw [hskip]
    cases word with
    | closing | conjunction | disjunction => rfl
    | _ => cases hword

end DocumentStore
