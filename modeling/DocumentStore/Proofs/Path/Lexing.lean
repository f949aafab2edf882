import DocumentStore.Path.Tokens
import DocumentStore.Proofs.Binary64.ReadBack

/-!
# Texts that read as tokens

A text written token by token reads as these tokens, provided that no token goes on with the first
character of what follows it: a name with a letter, a number with a digit or a point, a point with
a second one.

* `NoHead` — the text that follows starts with none of the characters that would be taken, too.
* `Reads` — a text reads as these tokens, whatever follows without such a head.
* `extendsSign` — the characters that a sign goes on with to become a longer one.
* `ReadsPlain` — a text that reads as one token, and that no sign before it goes on with.
* `Numeral.Ends` — what follows a numeral does not go on with it.

Principal results: `Reads.append` — texts read one after the other.  `reads_sign`, `reads_word`,
`reads_numeral`, `reads_quote` — the text of each kind of token reads as that token.
-/

set_option autoImplicit false

namespace DocumentStore

/-! ## What follows a text -/

/-- What follows does not start with a character that would be taken, too. -/
def NoHead (taken : Char → Bool) (rest : List Char) : Prop :=
  ∀ c tail, rest = c :: tail → taken c = false

theorem noHead_nil (taken : Char → Bool) : NoHead taken [] := by
  intro c tail h
  cases h

theorem noHead_cons {taken : Char → Bool} {c : Char} {tail : List Char} (h : taken c = false) :
    NoHead taken (c :: tail) := by
  intro d tail' h'
  cases h'
  exact h

theorem NoHead.mono {less more : Char → Bool} (h : ∀ c, less c = true → more c = true)
    {rest : List Char} (clear : NoHead more rest) : NoHead less rest := by
  intro c tail hc
  have hmore := clear c tail hc
  cases hless : less c with
  | false => rfl
  | true => rw [h c hless] at hmore; cases hmore

theorem takeWhile_append_noHead {p : Char → Bool} {front rest : List Char}
    (all : ∀ c ∈ front, p c = true) (clear : NoHead p rest) :
    (front ++ rest).takeWhile p = front := by
  rw [List.takeWhile_append_of_pos all]
  cases rest with
  | nil => simp
  | cons c tail => simp [clear c tail rfl]

theorem dropWhile_append_noHead {p : Char → Bool} {front rest : List Char}
    (all : ∀ c ∈ front, p c = true) (clear : NoHead p rest) :
    (front ++ rest).dropWhile p = rest := by
  rw [List.dropWhile_append_of_pos all]
  cases rest with
  | nil => rfl
  | cons c tail => simp [clear c tail rfl]

/-! ## Reading one text after the other -/

/-- The text reads as the tokens, whatever follows without a head that is taken. -/
def Reads (taken : Char → Bool) (text : List Char) (tokens : List Token) : Prop :=
  ∀ rest, NoHead taken rest → tokensOf (text ++ rest) = (tokensOf rest).map (tokens ++ ·)

theorem tokensOf_nil : tokensOf [] = .ok [] := by
  rw [tokensOf]
  rfl

theorem tokensOf_cons {c : Char} {text rest : List Char} {token : Token}
    (hblank : isBlank c = false) (hnext : Token.next? (c :: text) = some (token, rest)) :
    tokensOf (c :: text) = (tokensOf rest).map (token :: ·) := by
  have hskip : skipBlanks (c :: text) = c :: text := by simp [skipBlanks, hblank]
  rw [tokensOf.eq_def]
  simp only [hskip, List.isEmpty_cons, Bool.false_eq_true, if_false]
  split
  · next h => rw [hskip, hnext] at h; cases h
  · next h => rw [hskip, hnext] at h; cases h; rfl

theorem reads_token {taken : Char → Bool} {c : Char} {text : List Char} {token : Token}
    (hblank : isBlank c = false)
    (hnext : ∀ rest, NoHead taken rest → Token.next? (c :: (text ++ rest)) = some (token, rest)) :
    Reads taken (c :: text) [token] :=
  fun rest clear => tokensOf_cons hblank (hnext rest clear)

theorem reads_nil (taken : Char → Bool) : Reads taken [] [] := by
  intro rest _
  simp only [List.nil_append]
  cases tokensOf rest <;> rfl

theorem Reads.mono {less more : Char → Bool} {text : List Char} {tokens : List Token}
    (reads : Reads less text tokens) (h : ∀ c, less c = true → more c = true) :
    Reads more text tokens :=
  fun rest clear => reads rest (clear.mono h)

/-- **Texts read one after the other**, when the second does not start with what the first
takes. -/
theorem Reads.append {taken taken' : Char → Bool} {front back : List Char}
    {tokens tokens' : List Token} (hfront : Reads taken front tokens)
    (hback : Reads taken' back tokens')
    (clear : ∀ rest, NoHead taken' rest → NoHead taken (back ++ rest)) :
    Reads taken' (front ++ back) (tokens ++ tokens') := by
  intro rest hrest
  rw [List.append_assoc, hfront _ (clear rest hrest), hback rest hrest]
  cases tokensOf rest with
  | error _ => rfl
  | ok found => simp [Except.map]

theorem Reads.append_cons {taken taken' : Char → Bool} {front tail : List Char} {c : Char}
    {tokens tokens' : List Token} (hfront : Reads taken front tokens)
    (hback : Reads taken' (c :: tail) tokens') (hc : taken c = false) :
    Reads taken' (front ++ c :: tail) (tokens ++ tokens') :=
  hfront.append hback (fun _ _ => noHead_cons hc)

theorem Reads.append_of_final {taken : Char → Bool} {front back : List Char}
    {tokens tokens' : List Token} (hfront : Reads (fun _ => false) front tokens)
    (hback : Reads taken back tokens') : Reads taken (front ++ back) (tokens ++ tokens') :=
  hfront.append hback (fun _ _ _ _ _ => rfl)

/-- A text that reads as tokens before anything reads as them on its own. -/
theorem Reads.tokensOf_eq {taken : Char → Bool} {text : List Char} {tokens : List Token}
    (reads : Reads taken text tokens) : tokensOf text = .ok tokens := by
  have h := reads [] (noHead_nil taken)
  rw [List.append_nil, tokensOf_nil] at h
  simpa [Except.map] using h

/-! ## Signs -/

/-- The characters that signs start with. -/
def signHeads : List Char := signTable.filterMap (fun entry => entry.1.toList.head?)

/-- Whether a sign and the character behind it are a sign, too. -/
def extendsSign (symbol : String) (c : Char) : Bool :=
  signTable.any (fun entry => entry.1.toList == symbol.toList ++ [c])

theorem nextSign?_eq_none {c : Char} {text : List Char} (h : c ∉ signHeads) :
    nextSign? (c :: text) = none := by
  unfold nextSign?
  rw [List.findSome?_eq_none_iff]
  intro entry hentry
  have hne : ∀ entry ∈ signTable, entry.1.toList ≠ [] := by decide
  obtain ⟨d, symbol, hsymbol⟩ := List.exists_cons_of_ne_nil (hne entry hentry)
  rw [Option.map_eq_none_iff, Option.eq_none_iff_forall_ne_some]
  intro rest hrest
  have htext := after?_eq_some_iff.1 hrest
  rw [hsymbol, List.cons_append, List.cons.injEq] at htext
  exact h (List.mem_filterMap.2 ⟨entry, hentry, by rw [hsymbol, htext.1]; rfl⟩)

/-- No sign stands in the table before a longer one that starts with it. -/
theorem signTable_longest_first :
    signTable.Pairwise (fun a b => ¬ a.1.toList <+: b.1.toList) := by decide

theorem signTable_length {entry : String × Token} (h : entry ∈ signTable) :
    1 ≤ entry.1.toList.length ∧ entry.1.toList.length ≤ 2 := by
  have hall : ∀ entry ∈ signTable,
      1 ≤ entry.1.toList.length ∧ entry.1.toList.length ≤ 2 := by decide
  exact hall entry h

theorem nextSign?_of_mem {symbol : String} {token : Token} (hmem : (symbol, token) ∈ signTable)
    {rest : List Char} (clear : NoHead (extendsSign symbol) rest) :
    nextSign? (symbol.toList ++ rest) = some (token, rest) := by
  have hfound : after? symbol.toList (symbol.toList ++ rest) = some rest :=
    after?_eq_some_iff.2 rfl
  obtain ⟨before, behind, htable⟩ := List.append_of_mem hmem
  have hbefore : ∀ entry ∈ before,
      (after? entry.1.toList (symbol.toList ++ rest)).map (entry.2, ·) = none := by
    intro entry hentry
    have hin : entry ∈ signTable := by
      rw [htable]
      exact List.mem_append_left _ hentry
    have hsorted := signTable_longest_first
    rw [htable, List.pairwise_append] at hsorted
    have hnot : ¬ entry.1.toList <+: symbol.toList :=
      hsorted.2.2 entry hentry _ List.mem_cons_self
    rw [Option.map_eq_none_iff, Option.eq_none_iff_forall_ne_some]
    intro tail htail
    obtain ⟨more, hsymbol, hrest⟩ | ⟨more, hsymbol, -⟩ :=
      List.append_eq_append_iff.1 (after?_eq_some_iff.1 htail)
    · -- An earlier sign that fits is the one written and the next character.
      have hlen := signTable_length hin
      have hpos := signTable_length hmem
      rw [hsymbol, List.length_append] at hlen
      match more with
      | [] =>
        rw [List.append_nil] at hsymbol
        exact hnot (hsymbol ▸ List.prefix_rfl)
      | [c] =>
        have hextends : extendsSign symbol c = true :=
          List.any_eq_true.2 ⟨entry, hin, beq_iff_eq.2 hsymbol⟩
        rw [clear c tail hrest] at hextends
        cases hextends
      | _ :: _ :: _ =>
        simp only [List.length_cons] at hlen hpos
        omega
    · exact hnot ⟨more, hsymbol.symm⟩
  rw [nextSign?, htable, List.findSome?_append, List.findSome?_eq_none_iff.2 hbefore]
  simp [hfound]

/-- **A sign is the token at the start of a text**, unless it goes on. -/
theorem Token.next?_of_sign {symbol : String} {token : Token} (hmem : (symbol, token) ∈ signTable)
    {rest : List Char} (clear : NoHead (extendsSign symbol) rest) :
    next? (symbol.toList ++ rest) = some (token, rest) := by
  rw [next?, nextSign?_of_mem hmem clear]
  rfl

theorem exists_sign_eq_cons {symbol : String} {token : Token}
    (hmem : (symbol, token) ∈ signTable) :
    ∃ c text, symbol.toList = c :: text ∧ isBlank c = false := by
  have hblank : ∀ entry ∈ signTable, entry.1.toList.head?.any isBlank = false := by decide
  cases htext : symbol.toList with
  | nil =>
    have hpos := (signTable_length hmem).1
    simp [htext] at hpos
  | cons c text =>
    have hhead := hblank _ hmem
    simp only [htext, List.head?_cons, Option.any_some] at hhead
    exact ⟨c, text, rfl, hhead⟩

/-- **A sign reads as its token.** -/
theorem reads_sign {symbol : String} {token : Token} (hmem : (symbol, token) ∈ signTable) :
    Reads (extendsSign symbol) symbol.toList [token] := by
  obtain ⟨c, text, htext, hhead⟩ := exists_sign_eq_cons hmem
  rw [htext]
  refine reads_token hhead (fun rest clear => ?_)
  rw [← List.cons_append, ← htext]
  exact Token.next?_of_sign hmem clear

/-- **A sign reads as its token, whatever follows**, when no longer sign starts with it. -/
theorem reads_finalSign {symbol : String} {token : Token} (hmem : (symbol, token) ∈ signTable)
    (hfinal : ∀ entry ∈ signTable, symbol.toList <+: entry.1.toList →
      entry.1.toList = symbol.toList) :
    Reads (fun _ => false) symbol.toList [token] := by
  refine (reads_sign hmem).mono (fun c hextends => ?_)
  obtain ⟨entry, hentry, heq⟩ := List.any_eq_true.1 hextends
  have hlonger : entry.1.toList = symbol.toList ++ [c] := beq_iff_eq.1 heq
  have hsame := hfinal entry hentry ⟨[c], hlonger.symm⟩
  rw [hlonger] at hsame
  exact absurd hsame (by simp)

/-- A sign goes on with the start of another sign only. -/
theorem extendsSign_eq_false {c : Char} (h : c ∉ signHeads) (symbol : String) :
    extendsSign symbol c = false := by
  have hall : ∀ entry ∈ signTable, entry.1.toList ⊆ signHeads := by decide
  rw [Bool.eq_false_iff]
  intro hextends
  obtain ⟨entry, hentry, heq⟩ := List.any_eq_true.1 hextends
  exact h (hall entry hentry (by simp [beq_iff_eq.1 heq]))

/-! ## Words, numbers and quoted texts -/

/-- A character that starts a token which is no sign. -/
structure StartsPlain (c : Char) : Prop where
  notBlank : isBlank c = false
  notSign : c ∉ signHeads

/-- A text that reads as one token, and that no sign before it goes on with. -/
structure ReadsPlain (taken : Char → Bool) (text : List Char) (token : Token) : Prop where
  reads : Reads taken text [token]
  starts : ∃ c tail, text = c :: tail ∧ StartsPlain c

theorem ReadsPlain.mono {less more : Char → Bool} {text : List Char} {token : Token}
    (plain : ReadsPlain less text token) (h : ∀ c, less c = true → more c = true) :
    ReadsPlain more text token :=
  ⟨plain.reads.mono h, plain.starts⟩

theorem ReadsPlain.noHead {taken : Char → Bool} {text : List Char} {token : Token}
    (plain : ReadsPlain taken text token) (symbol : String) (rest : List Char) :
    NoHead (extendsSign symbol) (text ++ rest) := by
  obtain ⟨c, tail, rfl, hplain⟩ := plain.starts
  exact noHead_cons (extendsSign_eq_false hplain.notSign symbol)

theorem isBlank_eq_false {c : Char} (hlow : 0x21 ≤ c.toNat) (hhigh : c.toNat < 0x7F) :
    isBlank c = false := by
  simp only [isBlank, blankRanges, CharRanges.contains, List.any_cons, List.any_nil,
    Bool.or_eq_false_iff, Bool.and_eq_false_iff, decide_eq_false_iff_not, and_true]
  omega

theorem not_mem_signHeads {p : Char → Bool} (hp : signHeads.any p = false) {c : Char}
    (h : p c = true) : c ∉ signHeads :=
  fun hmem => List.any_eq_false.1 hp c hmem h

theorem startsPlain_of_word {c : Char} (h : isIdentifierStart c = true) : StartsPlain c := by
  refine ⟨?_, not_mem_signHeads (by decide) h⟩
  simp only [isIdentifierStart, Bool.or_eq_true, Bool.and_eq_true, beq_iff_eq, decide_eq_true_eq]
    at h
  obtain (rfl | ⟨hlow, hhigh⟩) | ⟨hlow, hhigh⟩ := h
  · decide
  · have hlow : 0x61 ≤ c.toNat := hlow
    have hhigh : c.toNat ≤ 0x7A := hhigh
    exact isBlank_eq_false (by omega) (by omega)
  · have hlow : 0x41 ≤ c.toNat := hlow
    have hhigh : c.toNat ≤ 0x5A := hhigh
    exact isBlank_eq_false (by omega) (by omega)

theorem startsPlain_of_digit {c : Char} (h : isAsciiDigit c = true) : StartsPlain c := by
  refine ⟨?_, not_mem_signHeads (by decide) h⟩
  simp only [isAsciiDigit, Bool.and_eq_true, decide_eq_true_eq] at h
  have hlow : 0x30 ≤ c.toNat := h.1
  have hhigh : c.toNat ≤ 0x39 := h.2
  exact isBlank_eq_false (by omega) (by omega)

theorem isIdentifierStart_of_digit {c : Char} (h : isAsciiDigit c = true) :
    isIdentifierStart c = false := by
  simp only [isAsciiDigit, Bool.and_eq_true, decide_eq_true_eq] at h
  have hhigh : c.toNat ≤ 0x39 := h.2
  rw [Bool.eq_false_iff]
  intro hword
  simp only [isIdentifierStart, Bool.or_eq_true, Bool.and_eq_true, beq_iff_eq, decide_eq_true_eq]
    at hword
  obtain (rfl | ⟨hlow, -⟩) | ⟨hlow, -⟩ := hword
  · exact absurd hhigh (by decide)
  · have hlow : 0x61 ≤ c.toNat := hlow
    omega
  · have hlow : 0x41 ≤ c.toNat := hlow
    omega

/-! A blank starts no token, and no token goes on with it. -/

theorem not_startsPlain_of_blank {c : Char} (h : isBlank c = true) : ¬ StartsPlain c := by
  intro plain
  rw [plain.notBlank] at h
  cases h

theorem isAsciiDigit_of_blank {c : Char} (h : isBlank c = true) : isAsciiDigit c = false := by
  rw [Bool.eq_false_iff]
  exact fun hdigit => not_startsPlain_of_blank h (startsPlain_of_digit hdigit)

theorem isIdentifierPart_of_blank {c : Char} (h : isBlank c = true) :
    isIdentifierPart c = false := by
  rw [isIdentifierPart, isAsciiDigit_of_blank h, Bool.or_false, Bool.eq_false_iff]
  exact fun hword => not_startsPlain_of_blank h (startsPlain_of_word hword)

theorem extendsSign_of_blank {c : Char} (h : isBlank c = true) (symbol : String) :
    extendsSign symbol c = false :=
  extendsSign_eq_false (not_mem_signHeads (by decide) h) symbol

theorem scanIdentifier?_append {c : Char} {word rest : List Char}
    (hstart : isIdentifierStart c = true) (hword : ∀ c ∈ word, isIdentifierPart c = true)
    (clear : NoHead isIdentifierPart rest) :
    scanIdentifier? (c :: (word ++ rest)) = some (c :: word, rest) := by
  rw [scanIdentifier?, if_pos hstart, takeWhile_append_noHead hword clear,
    dropWhile_append_noHead hword clear]

/-- **A word is the token at the start of a text**, unless it goes on. -/
theorem Token.next?_of_word {c : Char} {word rest : List Char}
    (hstart : isIdentifierStart c = true) (hword : ∀ c ∈ word, isIdentifierPart c = true)
    (clear : NoHead isIdentifierPart rest) :
    next? (c :: (word ++ rest)) = some (wordToken (c :: word), rest) := by
  rw [next?, nextSign?_eq_none (startsPlain_of_word hstart).notSign,
    scanIdentifier?_append hstart hword clear]
  rfl

/-- **A word reads as one token**, unless it goes on. -/
theorem reads_word {c : Char} {word : List Char} (hstart : isIdentifierStart c = true)
    (hword : word.all isIdentifierPart = true) :
    ReadsPlain isIdentifierPart (c :: word) (wordToken (c :: word)) := by
  have hplain := startsPlain_of_word hstart
  have hword := List.all_eq_true.1 hword
  exact ⟨reads_token hplain.notBlank (fun _ => Token.next?_of_word hstart hword),
    c, word, rfl, hplain⟩

/-- Whether a numeral would go on with a character. -/
def extendsNumeral (c : Char) : Bool := isAsciiDigit c || c == '.'

theorem Numeral.splitSign_text {n : Numeral} (proper : n.Proper) (tail : List Char) :
    splitSign ((if n.negative then ['-'] else []) ++ (n.whole ++ tail)) =
      (n.negative, n.whole ++ tail) := by
  cases hsign : n.negative with
  | true => rfl
  | false =>
    obtain ⟨d, digits, hwhole⟩ := List.exists_cons_of_ne_nil proper.whole_ne_nil
    have hdigit : isAsciiDigit d = true := proper.whole_digits d (by simp [hwhole])
    have hminus : d ≠ '-' := by
      rintro rfl
      exact absurd hdigit (by decide)
    rw [hwhole]
    unfold splitSign
    split
    · next h => exact absurd (List.cons.inj h).1 hminus
    · rfl

/-- What follows does not start with a fraction: a point and a digit. -/
def Numeral.NoFraction (rest : List Char) : Prop :=
  ∀ tail, rest = '.' :: tail → NoHead isAsciiDigit tail

/-- A numeral ends before what follows: no digit follows it, and without a fraction of its own no
fraction does. -/
structure Numeral.Ends (n : Numeral) (rest : List Char) : Prop where
  noDigit : NoHead isAsciiDigit rest
  noFraction : n.fraction = [] → NoFraction rest

theorem Numeral.ends_of_noHead (n : Numeral) {rest : List Char}
    (clear : NoHead extendsNumeral rest) : n.Ends rest where
  noDigit := clear.mono (fun c h => by simp [extendsNumeral, h])
  noFraction := fun _ tail h => absurd (clear '.' tail h) (by decide)

theorem Numeral.splitFraction_text {n : Numeral} (proper : n.Proper) {rest : List Char}
    (ends : n.Ends rest) :
    splitFraction ((if n.fraction.isEmpty then [] else '.' :: n.fraction) ++ rest) =
      (n.fraction, rest) := by
  cases hfraction : n.fraction with
  | nil =>
    simp only [List.isEmpty_nil, if_true, List.nil_append]
    unfold splitFraction
    split
    · next tail =>
      have hnone : ∀ c ∈ ([] : List Char), isAsciiDigit c = true := by simp
      have htake : tail.takeWhile isAsciiDigit = [] :=
        takeWhile_append_noHead hnone (ends.noFraction hfraction tail rfl)
      simp only [htake]
    · rfl
  | cons c fraction =>
    have digits : ∀ d ∈ c :: fraction, isAsciiDigit d = true :=
      hfraction ▸ proper.fraction_digits
    have htake := takeWhile_append_noHead digits ends.noDigit
    have hdrop := dropWhile_append_noHead digits ends.noDigit
    show splitFraction ('.' :: (c :: fraction ++ rest)) = _
    unfold splitFraction
    simp only [htake, hdrop]

/-- **A numeral is found at the start of its text**, when it ends there. -/
theorem Numeral.scan?_of_ends {n : Numeral} (proper : n.Proper) {rest : List Char}
    (ends : n.Ends rest) : scan? (n.text ++ rest) = some (n, rest) := by
  have hbehind : NoHead isAsciiDigit
      ((if n.fraction.isEmpty then [] else '.' :: n.fraction) ++ rest) := by
    split
    · exact ends.noDigit
    · exact noHead_cons (by decide)
  obtain ⟨d, digits, hwhole⟩ := List.exists_cons_of_ne_nil proper.whole_ne_nil
  unfold scan? text
  simp only [List.append_assoc, splitSign_text proper,
    takeWhile_append_noHead proper.whole_digits hbehind,
    dropWhile_append_noHead proper.whole_digits hbehind, splitFraction_text proper ends]
  rw [hwhole]
  simp only [← hwhole]

/-- **A numeral is found at the start of its text**, unless it goes on. -/
theorem Numeral.scan?_text {n : Numeral} (proper : n.Proper) {rest : List Char}
    (clear : NoHead extendsNumeral rest) : scan? (n.text ++ rest) = some (n, rest) :=
  scan?_of_ends proper (n.ends_of_noHead clear)

theorem Numeral.exists_text_eq_cons {n : Numeral} (proper : n.Proper) :
    ∃ c text, n.text = c :: text ∧ (c = '-' ∨ isAsciiDigit c = true) := by
  cases hsign : n.negative with
  | true => exact ⟨'-', _, by simp [text, hsign]; rfl, .inl rfl⟩
  | false =>
    obtain ⟨d, digits, hwhole⟩ := List.exists_cons_of_ne_nil proper.whole_ne_nil
    have hdigit : isAsciiDigit d = true := proper.whole_digits d (by simp [hwhole])
    exact ⟨d, _, by simp [text, hsign, hwhole]; rfl, .inr hdigit⟩

theorem startsPlain_of_numeral {c : Char} (h : c = '-' ∨ isAsciiDigit c = true) :
    StartsPlain c ∧ isIdentifierStart c = false := by
  obtain rfl | hdigit := h
  · exact ⟨⟨by decide, by decide⟩, by decide⟩
  · exact ⟨startsPlain_of_digit hdigit, isIdentifierStart_of_digit hdigit⟩

/-- **A numeral is the token at the start of a text**, when it ends there. -/
theorem Token.next?_of_numeral {n : Numeral} (proper : n.Proper) {rest : List Char}
    (ends : n.Ends rest) : next? (n.text ++ rest) = some (.number n, rest) := by
  obtain ⟨c, text, htext, hhead⟩ := Numeral.exists_text_eq_cons proper
  obtain ⟨hplain, hword⟩ := startsPlain_of_numeral hhead
  have hscan := Numeral.scan?_of_ends proper ends
  rw [htext, List.cons_append] at hscan ⊢
  rw [next?, nextSign?_eq_none hplain.notSign, scanIdentifier?, hword, hscan]
  rfl

/-- **A numeral reads as one token**, unless it goes on. -/
theorem reads_numeral {n : Numeral} (proper : n.Proper) :
    ReadsPlain extendsNumeral n.text (.number n) := by
  obtain ⟨c, text, htext, hhead⟩ := Numeral.exists_text_eq_cons proper
  obtain ⟨hplain, -⟩ := startsPlain_of_numeral hhead
  refine ⟨?_, c, text, htext, hplain⟩
  rw [htext]
  refine reads_token hplain.notBlank (fun rest clear => ?_)
  rw [← List.cons_append, ← htext]
  exact Token.next?_of_numeral proper (n.ends_of_noHead clear)

theorem startsPlain_of_mark (mark : QuoteMark) : StartsPlain mark.char :=
  ⟨by cases mark <;> decide, by cases mark <;> decide⟩

theorem nextQuoted?_mark (mark : QuoteMark) (rest : List Char) :
    nextQuoted? (mark.char :: rest) = quotedToken? mark rest := by
  cases mark <;> rfl

/-- Behind a quotation mark nothing but a quoted text is looked for. -/
theorem Token.next?_mark (mark : QuoteMark) (rest : List Char) :
    next? (mark.char :: rest) = quotedToken? mark rest := by
  rw [next?, nextSign?_eq_none (startsPlain_of_mark mark).notSign, ← nextQuoted?_mark]
  cases mark <;> rfl

/-- **A quoted text is the token at the start of a text**, whatever follows. -/
theorem Token.next?_of_escaped {mark : QuoteMark} {written text : List Char}
    (escaped : Escaped mark.char written text) (rest : List Char) :
    next? (mark.char :: (written ++ mark.char :: rest)) =
      some (.quoted (String.ofList text) mark, rest) := by
  have hmark : mark.char ≠ '\\' := by cases mark <;> decide
  rw [next?_mark, quotedToken?, escaped.unquote?_eq hmark]
  rfl

/-- **A quoted text reads as one token**, whatever follows. -/
theorem reads_quote (mark : QuoteMark) (text : List Char) :
    ReadsPlain (fun _ => false) (quote mark.char text) (.quoted (String.ofList text) mark) := by
  have hplain := startsPlain_of_mark mark
  refine ⟨reads_token hplain.notBlank (fun rest _ => ?_), _, _, rfl, hplain⟩
  rw [List.append_assoc]
  exact Token.next?_of_escaped (escaped_escapeQuoted mark.char text) rest

end DocumentStore
