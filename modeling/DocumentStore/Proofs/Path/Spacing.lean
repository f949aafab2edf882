import DocumentStore.Proofs.Path.Derivation
import DocumentStore.Proofs.Path.Spelling

/-!
# Blanks between tokens

A text is cut into the tokens in it, each with the blanks before it.  Blanks may be put in at every
cut, and taken away where some are left, without a change of the tokens: a token that ends before
another one also ends before a blank, and no token looks further than to the start of the one
behind the next.

* `Lexeme` — a token with its characters and the blanks before it.
* `Lexed` — a text starts with these lexemes.
* `Respaced` — a text holds the tokens of these lexemes with other blanks around them.
* `KeepsEnds` — every token that ends before one text ends before the other.
* `Lexeme.spans` — where the characters of each token stand.

Principal results: `exists_lexed` — every text is cut into lexemes up to where no token starts.
`Lexed.tokensOf_respaced` — the tokens do not depend on the blanks.
`Token.ofText_respaced` — a path that is read is read alike with other blanks, and each of its
characters that is not blank belongs to one token.
-/

set_option autoImplicit false

namespace DocumentStore

/-- Whether all characters of a text are blank. -/
def Blank (text : List Char) : Prop := ∀ c ∈ text, isBlank c = true

/-- A token where it stands: the blanks before it and the characters that spell it. -/
structure Lexeme where
  gap : List Char
  word : List Char
  token : Token

/-- The text starts with these lexemes, each spelling its token before all that follows, and goes
on with `behind`. -/
inductive Lexed : (text : List Char) → List Lexeme → (behind : List Char) → Prop
  | done (behind : List Char) : Lexed behind [] behind
  | more {gap word rest behind : List Char} {token : Token} {lexemes : List Lexeme}
    (blank : Blank gap) (spells : Spells word token rest) (onward : Lexed rest lexemes behind) :
    Lexed (gap ++ (word ++ rest)) (⟨gap, word, token⟩ :: lexemes) behind

/-- The text holds the words of these lexemes with blanks around them.  There may be more blanks or
others, but two words with blanks between them keep some. -/
inductive Respaced : List Lexeme → (text : List Char) → Prop
  | done {gap : List Char} (blank : Blank gap) : Respaced [] gap
  | more {lexeme : Lexeme} {lexemes : List Lexeme} {gap rest : List Char} (blank : Blank gap)
    (kept : gap = [] → lexeme.gap = []) (onward : Respaced lexemes rest) :
    Respaced (lexeme :: lexemes) (gap ++ (lexeme.word ++ rest))

/-! ## Cutting a text into lexemes -/

theorem skipBlanks_append {gap : List Char} (blank : Blank gap) (text : List Char) :
    skipBlanks (gap ++ text) = skipBlanks text :=
  List.dropWhile_append_of_pos blank

theorem blank_of_skipBlanks_eq_nil {text : List Char} (h : skipBlanks text = []) : Blank text :=
  List.dropWhile_eq_nil_iff.1 h

theorem tokensOf_gap {gap : List Char} (blank : Blank gap) (text : List Char) :
    tokensOf (gap ++ text) = tokensOf text := by
  rw [tokensOf.eq_def, tokensOf.eq_def text, skipBlanks_append blank]

theorem tokensOf_blank {gap : List Char} (blank : Blank gap) : tokensOf gap = .ok [] := by
  rw [← List.append_nil gap, tokensOf_gap blank, tokensOf_nil]

theorem tokensOf_spelled {word rest : List Char} {token : Token}
    (spells : Spells word token rest) :
    tokensOf (word ++ rest) = (tokensOf rest).map (token :: ·) := by
  obtain ⟨c, tail, rfl, hblank⟩ := spells.exists_eq_cons
  exact tokensOf_cons hblank spells.next?_eq

theorem tokensOf_of_next?_eq_none {text : List Char}
    (h : Token.next? (skipBlanks text) = none) :
    Blank text ∧ tokensOf text = .ok [] ∨
      skipBlanks text ≠ [] ∧ tokensOf text = .error (skipBlanks text) := by
  cases hskip : skipBlanks text with
  | nil =>
    have blank := blank_of_skipBlanks_eq_nil hskip
    exact .inl ⟨blank, tokensOf_blank blank⟩
  | cons c tail =>
    refine .inr ⟨List.cons_ne_nil c tail, ?_⟩
    rw [tokensOf.eq_def]
    split
    · next hempty => simp [hskip] at hempty
    · split
      · rw [hskip]
      · next hnext => rw [h] at hnext; cases hnext

/-- **Every text is cut into lexemes**, up to where no token starts. -/
theorem exists_lexed (text : List Char) :
    ∃ lexemes behind, Lexed text lexemes behind ∧ Token.next? (skipBlanks behind) = none := by
  cases hnext : Token.next? (skipBlanks text) with
  | none => exact ⟨[], text, .done text, hnext⟩
  | some found =>
    obtain ⟨token, rest⟩ := found
    obtain ⟨word, hword, spells⟩ := Token.next?_eq_some_iff.1 hnext
    have hshorter : rest.length < text.length :=
      Nat.lt_of_lt_of_le (Token.length_of_next? hnext) (length_skipBlanks_le text)
    obtain ⟨lexemes, behind, onward, hnone⟩ := exists_lexed rest
    have blank : Blank (text.takeWhile isBlank) := fun _ hc => List.mem_takeWhile_imp hc
    have hlexed := Lexed.more blank spells onward
    rw [← hword, skipBlanks, List.takeWhile_append_dropWhile] at hlexed
    exact ⟨_, behind, hlexed, hnone⟩
  termination_by text.length

theorem Lexed.tokensOf_eq {text behind : List Char} {lexemes : List Lexeme}
    (lexed : Lexed text lexemes behind) :
    tokensOf text = (tokensOf behind).map (lexemes.map Lexeme.token ++ ·) := by
  induction lexed with
  | done behind => cases tokensOf behind <;> rfl
  | @more gap word rest behind token lexemes blank spells onward ih =>
    rw [tokensOf_gap blank, tokensOf_spelled spells, ih]
    cases tokensOf behind <;> rfl

/-- A text that is read is cut into the lexemes of its tokens, with blanks behind them. -/
theorem lexed_of_tokensOf {text : List Char} {tokens : List Token}
    (h : tokensOf text = .ok tokens) :
    ∃ lexemes tail, Lexed text lexemes tail ∧ Blank tail ∧
      lexemes.map Lexeme.token = tokens := by
  obtain ⟨lexemes, behind, lexed, hnone⟩ := exists_lexed text
  rw [lexed.tokensOf_eq] at h
  rcases tokensOf_of_next?_eq_none hnone with ⟨blank, hend⟩ | ⟨-, hstray⟩
  · rw [hend] at h
    cases h
    exact ⟨lexemes, behind, lexed, blank, (List.append_nil _).symm⟩
  · rw [hstray] at h
    cases h

/-! ## The end of a token -/

/-- A token that ends before `rest` ends before `spaced`, too: no character stands first there that
could go on with it unless it did so before, and no fraction. -/
structure KeepsEnds (rest spaced : List Char) : Prop where
  noHead : ∀ taken : Char → Bool, (∀ c, isBlank c = true → taken c = false) →
    NoHead taken rest → NoHead taken spaced
  noFraction : Numeral.NoFraction rest → Numeral.NoFraction spaced

theorem keepsEnds_of_blank {spaced : List Char}
    (h : ∀ c tail, spaced = c :: tail → isBlank c = true) (rest : List Char) :
    KeepsEnds rest spaced where
  noHead := fun _ plain _ c tail hc => plain c (h c tail hc)
  noFraction := fun _ tail hc => absurd (h '.' tail hc) (by decide)

/-- What a word starts with decides what ends before it, and where it is a lone point, what stands
behind it. -/
theorem KeepsEnds.append {rest spaced : List Char} (keeps : KeepsEnds rest spaced) {c : Char}
    {tail : List Char} : KeepsEnds (c :: tail ++ rest) (c :: tail ++ spaced) where
  noHead := fun _ _ clear => noHead_cons (clear c _ rfl)
  noFraction := by
    intro clear more hmore
    obtain ⟨rfl, rfl⟩ := List.cons.inj hmore
    have hrest := clear (tail ++ rest) rfl
    cases tail with
    | nil => exact keeps.noHead isAsciiDigit (fun _ => isAsciiDigit_of_blank) hrest
    | cons d tail => exact noHead_cons (hrest d _ rfl)

theorem KeepsEnds.spells {word rest spaced : List Char} {token : Token}
    (keeps : KeepsEnds rest spaced) (spells : Spells word token rest) :
    Spells word token spaced := by
  cases spells with
  | sign mem ends =>
    exact .sign mem (keeps.noHead _ (fun _ blank => extendsSign_of_blank blank _) ends)
  | word start parts ends =>
    exact .word start parts (keeps.noHead _ (fun _ => isIdentifierPart_of_blank) ends)
  | numeral proper ends =>
    exact .numeral proper
      ⟨keeps.noHead _ (fun _ => isAsciiDigit_of_blank) ends.noDigit,
        fun hfraction => keeps.noFraction (ends.noFraction hfraction)⟩
  | quoted _ escaped => exact .quoted spaced escaped

/-! ## Other blanks -/

/-- **No token looks further than the start of the second one behind it**: other blanks between the
tokens leave each of them its end. -/
theorem Lexed.keepsEnds {text behind spaced : List Char} {lexemes : List Lexeme}
    (lexed : Lexed text lexemes behind) (respaced : Respaced lexemes spaced) :
    KeepsEnds text spaced := by
  induction lexed generalizing spaced with
  | done behind =>
    cases respaced with
    | done blank => exact keepsEnds_of_blank (fun c tail h => blank c (by simp [h])) behind
  | @more gap word rest behind token lexemes blank spells onward ih =>
    cases respaced with
    | @more _ _ gap' rest' blank' kept onward' =>
      cases gap' with
      | cons c gap' =>
        refine keepsEnds_of_blank (fun d tail h => ?_) _
        exact blank' d (by rw [(List.cons.inj h).1]; exact List.mem_cons_self)
      | nil =>
        have hgap : gap = [] := kept rfl
        obtain ⟨c, tail, rfl, -⟩ := spells.exists_eq_cons
        subst hgap
        exact (ih onward').append

/-- **With other blanks the text is cut into the same tokens.** -/
theorem Lexed.respaced {text behind spaced : List Char} {lexemes : List Lexeme}
    (lexed : Lexed text lexemes behind) (respaced : Respaced lexemes spaced) :
    ∃ lexemes' tail, Lexed spaced lexemes' tail ∧ Blank tail ∧
      lexemes'.map Lexeme.token = lexemes.map Lexeme.token := by
  induction lexed generalizing spaced with
  | done behind =>
    cases respaced with
    | done blank => exact ⟨[], _, .done _, blank, rfl⟩
  | @more gap word rest behind token lexemes blank spells onward ih =>
    cases respaced with
    | @more _ _ gap' rest' blank' kept onward' =>
      obtain ⟨lexemes', tail, lexed', htail, htokens⟩ := ih onward'
      have spells' := (onward.keepsEnds onward').spells spells
      exact ⟨_, tail, .more blank' spells' lexed', htail, by simp [htokens]⟩

/-- **The tokens do not depend on the blanks around them**, nor on what stood behind the last. -/
theorem Lexed.tokensOf_respaced {text behind spaced : List Char} {lexemes : List Lexeme}
    (lexed : Lexed text lexemes behind) (respaced : Respaced lexemes spaced) :
    tokensOf spaced = .ok (lexemes.map Lexeme.token) := by
  obtain ⟨lexemes', tail, lexed', blank, htokens⟩ := lexed.respaced respaced
  rw [lexed'.tokensOf_eq, tokensOf_blank blank, htokens]
  exact congrArg Except.ok (List.append_nil _)

/-! ## The characters of each token -/

/-- Where the characters of each token stand in a text that starts at `start`: the first place and
the one past the last. -/
def Lexeme.spans : (start : Nat) → List Lexeme → List (Nat × Nat)
  | _, [] => []
  | start, lexeme :: lexemes =>
    let first := start + lexeme.gap.length
    let past := first + lexeme.word.length
    (first, past) :: spans past lexemes

/-- Whether a place is in a span. -/
def spanHolds (place : Nat) (span : Nat × Nat) : Bool :=
  decide (span.1 ≤ place) && decide (place < span.2)

theorem Lexeme.countP_spans_before {start place : Nat} (before : place < start)
    (lexemes : List Lexeme) : (spans start lexemes).countP (spanHolds place) = 0 := by
  induction lexemes generalizing start with
  | nil => rfl
  | cons lexeme lexemes ih =>
    have houtside : ¬ spanHolds place
        (start + lexeme.gap.length, start + lexeme.gap.length + lexeme.word.length) := by
      simp only [spanHolds, Bool.and_eq_true, decide_eq_true_eq]
      omega
    rw [spans, List.countP_cons_of_neg houtside]
    exact ih (by omega)

/-- **A character that is not blank belongs to exactly one token.** -/
theorem Lexed.countP_spans {text behind : List Char} {lexemes : List Lexeme}
    (lexed : Lexed text lexemes behind) (blank : Blank behind) {i : Nat} {c : Char}
    (hc : text[i]? = some c) (notBlank : isBlank c = false) (start : Nat) :
    (Lexeme.spans start lexemes).countP (spanHolds (start + i)) = 1 := by
  have hblank : ∀ {gap : List Char} {j : Nat}, Blank gap → gap[j]? ≠ some c := by
    intro gap j blank h
    rw [blank c (List.mem_of_getElem? h)] at notBlank
    cases notBlank
  clear notBlank
  induction lexed generalizing i start with
  | done behind => exact absurd hc (hblank blank)
  | @more gap word rest behind token lexemes hgap spells onward ih =>
    have hbehind : gap.length ≤ i := by
      rw [← Nat.not_lt]
      intro hlt
      rw [List.getElem?_append_left hlt] at hc
      exact hblank hgap hc
    rw [List.getElem?_append_right hbehind] at hc
    rw [Lexeme.spans]
    by_cases hword : i - gap.length < word.length
    · have hinside : spanHolds (start + i)
          (start + gap.length, start + gap.length + word.length) := by
        simp only [spanHolds, Bool.and_eq_true, decide_eq_true_eq]
        omega
      rw [List.countP_cons_of_pos hinside, Lexeme.countP_spans_before (by simp only; omega)]
    · have houtside : ¬ spanHolds (start + i)
          (start + gap.length, start + gap.length + word.length) := by
        simp only [spanHolds, Bool.and_eq_true, decide_eq_true_eq]
        omega
      rw [List.getElem?_append_right (Nat.not_lt.1 hword)] at hc
      have hrest := ih blank hc (start + gap.length + word.length)
      have hplace : start + gap.length + word.length + (i - gap.length - word.length) =
          start + i := by omega
      rw [hplace] at hrest
      rw [List.countP_cons_of_neg houtside]
      exact hrest

/-! ## Paths with other blanks -/

theorem PathExpr.ofText_of_tokens {path : String} {tokens : List Token}
    (h : Token.ofText path = .ok tokens) :
    ofText path = (ofTokens tokens).mapError (.badPath path) := by
  rw [ofText, h, Except.bind, ofTokensOf]
  cases ofTokens tokens <;> rfl

/-- **A path that has tokens is cut into them, and has the same tokens with other blanks.**  It
then writes the same expression or has the same problem, and each character that is not blank
belongs to exactly one token. -/
theorem Token.ofText_respaced {path : String} {tokens : List Token}
    (h : ofText path = .ok tokens) :
    ∃ lexemes tail, Lexed path.toList lexemes tail ∧ Blank tail ∧
      lexemes.map Lexeme.token = tokens ∧
      (∀ spaced : String, Respaced lexemes spaced.toList →
        ofText spaced = .ok tokens ∧
        ∃ result : Except PathProblem PathExpr,
          PathExpr.ofText path = result.mapError (.badPath path) ∧
          PathExpr.ofText spaced = result.mapError (.badPath spaced)) ∧
      ∀ i c, path.toList[i]? = some c → isBlank c = false →
        (Lexeme.spans 0 lexemes).countP (spanHolds i) = 1 := by
  obtain ⟨lexemes, tail, lexed, blank, htokens⟩ := lexed_of_tokensOf (ofText_eq_ok_iff.1 h)
  refine ⟨lexemes, tail, lexed, blank, htokens, fun spaced respaced => ?_,
    fun i c hc notBlank => ?_⟩
  · have hspaced : ofText spaced = .ok tokens :=
      ofText_eq_ok_iff.2 (htokens ▸ lexed.tokensOf_respaced respaced)
    exact ⟨hspaced, PathExpr.ofTokens tokens, PathExpr.ofText_of_tokens h,
      PathExpr.ofText_of_tokens hspaced⟩
  · have hcount := lexed.countP_spans blank hc notBlank 0
    rwa [Nat.zero_add] at hcount

/-- The tokens of `shelf[10 .5]`: blanks keep a numeral from going on with a point. -/
def shelfTokens : List Token :=
  [.identifier "shelf", .bracket .opening, .number ⟨false, ['1', '0'], []⟩, .joint .dot,
    .number ⟨false, ['5'], []⟩, .bracket .closing]

theorem Token.ofText_respaced_shelf :
    ofText "shelf[10 .5]" = .ok shelfTokens ∧
      ∃ lexemes tail, Lexed "shelf[10 .5]".toList lexemes tail ∧
        lexemes.map Lexeme.token = shelfTokens ∧
        ∀ spaced : String, Respaced lexemes spaced.toList → ofText spaced = .ok shelfTokens := by
  have htokens : ofText "shelf[10 .5]" = .ok shelfTokens :=
    PathExpr.token_ofText (by decide +kernel)
  obtain ⟨lexemes, tail, lexed, -, hlexemes, hspaced, -⟩ := ofText_respaced htokens
  exact ⟨htokens, lexemes, tail, lexed, hlexemes, fun spaced h => (hspaced spaced h).1⟩

end DocumentStore
