import Mathlib.Data.List.TakeWhile
import DocumentStore.Proofs.Path.Lexing

/-!
# The token at the start of a text

Each kind of token has its spellings, and a spelling depends on what follows only in that the
token must end there: a sign, a word or a numeral that could go on does.  The token found at the
start of a text is the one that is spelled there.

* `Spells` — a word spells a token before what follows it.

Principal result: `Token.next?_eq_some_iff` — the token found is the token spelled.
-/

set_option autoImplicit false

namespace DocumentStore

/-- The characters `word` spell a token, when `rest` follows them. -/
inductive Spells : (word : List Char) → Token → (rest : List Char) → Prop
  | sign {symbol : String} {token : Token} {rest : List Char} (mem : (symbol, token) ∈ signTable)
    (ends : NoHead (extendsSign symbol) rest) : Spells symbol.toList token rest
  | word {c : Char} {tail rest : List Char} (start : isIdentifierStart c = true)
    (parts : ∀ d ∈ tail, isIdentifierPart d = true) (ends : NoHead isIdentifierPart rest) :
    Spells (c :: tail) (wordToken (c :: tail)) rest
  | numeral {n : Numeral} {rest : List Char} (proper : n.Proper) (ends : n.Ends rest) :
    Spells n.text (.number n) rest
  | quoted {mark : QuoteMark} {written text : List Char} (rest : List Char)
    (escaped : Escaped mark.char written text) :
    Spells (mark.char :: (written ++ [mark.char])) (.quoted (String.ofList text) mark) rest

theorem Spells.exists_eq_cons {word rest : List Char} {token : Token}
    (spells : Spells word token rest) : ∃ c tail, word = c :: tail ∧ isBlank c = false := by
  cases spells with
  | sign mem _ => exact exists_sign_eq_cons mem
  | word start _ _ => exact ⟨_, _, rfl, (startsPlain_of_word start).notBlank⟩
  | numeral proper _ =>
    obtain ⟨c, tail, htext, hhead⟩ := Numeral.exists_text_eq_cons proper
    exact ⟨c, tail, htext, (startsPlain_of_numeral hhead).1.notBlank⟩
  | quoted _ _ => exact ⟨_, _, rfl, (startsPlain_of_mark _).notBlank⟩

theorem Spells.next?_eq {word rest : List Char} {token : Token}
    (spells : Spells word token rest) : Token.next? (word ++ rest) = some (token, rest) := by
  cases spells with
  | sign mem ends => exact Token.next?_of_sign mem ends
  | word start parts ends => exact Token.next?_of_word start parts ends
  | numeral proper ends => exact Token.next?_of_numeral proper ends
  | quoted _ escaped =>
    rw [List.cons_append, List.append_assoc]
    exact Token.next?_of_escaped escaped rest

/-! ## What is found is spelled -/

theorem noHead_dropWhile (p : Char → Bool) (text : List Char) : NoHead p (text.dropWhile p) := by
  intro c tail h
  have hhead := List.head?_dropWhile_not p text
  rw [h] at hhead
  simpa using hhead

theorem noHead_of_takeWhile_eq_nil {p : Char → Bool} {text : List Char}
    (h : text.takeWhile p = []) : NoHead p text := by
  have hdrop : text.dropWhile p = text := by
    simpa [h] using List.takeWhile_append_dropWhile (p := p) (l := text)
  exact hdrop ▸ noHead_dropWhile p text

theorem exists_sign_of_nextSign? {text rest : List Char} {token : Token}
    (h : nextSign? text = some (token, rest)) :
    ∃ symbol, (symbol, token) ∈ signTable ∧ text = symbol.toList ++ rest ∧
      NoHead (extendsSign symbol) rest := by
  obtain ⟨before, ⟨symbol, found⟩, behind, htable, hfound, hbefore⟩ :=
    List.findSome?_eq_some_iff.1 h
  obtain ⟨tail, htail, he⟩ := Option.map_eq_some_iff.1 hfound
  simp only [Prod.mk.injEq] at he
  obtain ⟨rfl, rfl⟩ := he
  have htext : text = symbol.toList ++ tail := after?_eq_some_iff.1 htail
  have hmem : (symbol, found) ∈ signTable := by
    rw [htable]
    exact List.mem_append_right _ List.mem_cons_self
  refine ⟨symbol, hmem, htext, fun c more hmore => ?_⟩
  rw [Bool.eq_false_iff]
  intro hextends
  obtain ⟨longer, hlonger, heq⟩ := List.any_eq_true.1 hextends
  have hsymbol : longer.1.toList = symbol.toList ++ [c] := beq_iff_eq.1 heq
  -- A longer sign stands before the one found, and would have been found first.
  have hsorted := signTable_longest_first
  rw [htable, List.pairwise_append, List.pairwise_cons] at hsorted
  have hpart : symbol.toList <+: longer.1.toList := ⟨[c], hsymbol.symm⟩
  have hin : longer ∈ before ++ (symbol, found) :: behind := htable ▸ hlonger
  rcases List.mem_append.1 hin with hin | hin
  · have hnone := Option.map_eq_none_iff.1 (hbefore longer hin)
    have hsome : after? longer.1.toList text = some more :=
      after?_eq_some_iff.2 (by rw [htext, hmore, hsymbol]; simp)
    rw [hnone] at hsome
    cases hsome
  · rcases List.mem_cons.1 hin with rfl | hin
    · simp at hsymbol
    · exact hsorted.2.1.1 longer hin hpart

theorem exists_word_of_scanIdentifier? {text word rest : List Char}
    (h : scanIdentifier? text = some (word, rest)) :
    ∃ c tail, word = c :: tail ∧ text = word ++ rest ∧ isIdentifierStart c = true ∧
      (∀ d ∈ tail, isIdentifierPart d = true) ∧ NoHead isIdentifierPart rest := by
  unfold scanIdentifier? at h
  split at h
  · cases h
  · next c tail =>
    split at h
    · next hstart =>
      simp only [Option.some.injEq, Prod.mk.injEq] at h
      obtain ⟨rfl, rfl⟩ := h
      exact ⟨c, _, rfl, by simp, hstart, fun _ hd => List.mem_takeWhile_imp hd,
        noHead_dropWhile _ _⟩
    · cases h

namespace Numeral

theorem splitSign_append (text : List Char) :
    (if (splitSign text).1 then ['-'] else []) ++ (splitSign text).2 = text := by
  unfold splitSign
  split <;> simp

theorem splitFraction_spec {text : List Char} (clear : NoHead isAsciiDigit text) :
    (if (splitFraction text).1.isEmpty then [] else '.' :: (splitFraction text).1)
        ++ (splitFraction text).2 = text ∧
      (∀ c ∈ (splitFraction text).1, isAsciiDigit c = true) ∧
      NoHead isAsciiDigit (splitFraction text).2 ∧
      ((splitFraction text).1 = [] → NoFraction (splitFraction text).2) := by
  unfold splitFraction
  split
  · next tail =>
    split
    · next hnone =>
      refine ⟨rfl, by simp, clear, fun _ more hmore => ?_⟩
      cases hmore
      exact noHead_of_takeWhile_eq_nil hnone
    · next hsome =>
      have hpart : (tail.takeWhile isAsciiDigit).isEmpty = false :=
        List.isEmpty_eq_false_iff.2 hsome
      refine ⟨?_, fun _ hc => List.mem_takeWhile_imp hc, noHead_dropWhile _ _,
        fun h => absurd h hsome⟩
      simp [hpart]
  · next hpoint => exact ⟨rfl, by simp, clear, fun _ tail h => absurd h (hpoint tail)⟩

/-- **A numeral that is found is written there**, and ends there. -/
theorem text_of_scan? {text rest : List Char} {n : Numeral} (h : scan? text = some (n, rest)) :
    n.Proper ∧ text = n.text ++ rest ∧ n.Ends rest := by
  unfold scan? at h
  simp only at h
  split at h
  · cases h
  · next hwhole =>
    simp only [Option.some.injEq, Prod.mk.injEq] at h
    obtain ⟨rfl, rfl⟩ := h
    obtain ⟨hfraction, hdigits, hnoDigit, hnoFraction⟩ :=
      splitFraction_spec (noHead_dropWhile isAsciiDigit (splitSign text).2)
    refine ⟨⟨hwhole, fun _ hc => List.mem_takeWhile_imp hc, hdigits⟩, ?_,
      hnoDigit, hnoFraction⟩
    simp only [Numeral.text, List.append_assoc, hfraction, List.takeWhile_append_dropWhile,
      splitSign_append]

end Numeral

/-- **A quoted text that is found stands there**, up to the mark that closes it. -/
theorem escaped_of_unquote? {mark : Char} {input text tail : List Char}
    (h : unquote? mark input = some (text, tail)) :
    ∃ written, input = written ++ mark :: tail ∧ Escaped mark written text := by
  fun_induction unquote? mark input generalizing text tail with
  | case1 => cases h
  | case2 => cases h
  | case3 d rest ih =>
    obtain ⟨⟨text', tail'⟩, hr, he⟩ := Option.map_eq_some_iff.1 h
    simp only [Prod.mk.injEq] at he
    obtain ⟨rfl, rfl⟩ := he
    obtain ⟨written, rfl, hescaped⟩ := ih hr
    exact ⟨_, rfl, .escaped d hescaped⟩
  | case4 =>
    simp only [Option.some.injEq, Prod.mk.injEq] at h
    obtain ⟨rfl, rfl⟩ := h
    exact ⟨[], rfl, .done⟩
  | case5 c rest hbackslash hmark ih =>
    obtain ⟨⟨text', tail'⟩, hr, he⟩ := Option.map_eq_some_iff.1 h
    simp only [Prod.mk.injEq] at he
    obtain ⟨rfl, rfl⟩ := he
    obtain ⟨written, rfl, hescaped⟩ := ih hr
    exact ⟨_, rfl, .plain hmark hbackslash hescaped⟩

theorem exists_mark_of_nextQuoted? {text rest : List Char} {token : Token}
    (h : nextQuoted? text = some (token, rest)) :
    ∃ mark : QuoteMark, ∃ tail, text = mark.char :: tail ∧
      quotedToken? mark tail = some (token, rest) := by
  unfold nextQuoted? at h
  split at h
  · exact ⟨.double, _, rfl, h⟩
  · exact ⟨.single, _, rfl, h⟩
  · cases h

theorem exists_spells_of_nextQuoted? {text rest : List Char} {token : Token}
    (h : nextQuoted? text = some (token, rest)) :
    ∃ word, text = word ++ rest ∧ Spells word token rest := by
  obtain ⟨mark, tail, rfl, hquoted⟩ := exists_mark_of_nextQuoted? h
  obtain ⟨⟨text', tail'⟩, hunquote, he⟩ := Option.map_eq_some_iff.1 hquoted
  simp only [Prod.mk.injEq] at he
  obtain ⟨rfl, rfl⟩ := he
  obtain ⟨written, rfl, hescaped⟩ := escaped_of_unquote? hunquote
  exact ⟨_, by simp, .quoted _ hescaped⟩

/-- The token at the start of a text is one of the four kinds, tried in this order. -/
theorem Token.next?_cases {text rest : List Char} {token : Token}
    (h : next? text = some (token, rest)) :
    nextSign? text = some (token, rest) ∨
      (∃ word, scanIdentifier? text = some (word, rest) ∧ token = wordToken word) ∨
      (∃ n, Numeral.scan? text = some (n, rest) ∧ token = .number n) ∨
      nextQuoted? text = some (token, rest) := by
  simp only [next?, Option.orElse_eq_orElse, Option.orElse_eq_or, Option.or_eq_some_iff,
    Option.map_eq_some_iff, Prod.mk.injEq, Prod.exists] at h
  rcases h with h | ⟨-, ⟨word, _, h, rfl, rfl⟩ | ⟨-, ⟨n, _, h, rfl, rfl⟩ | ⟨-, h⟩⟩⟩
  · exact .inl h
  · exact .inr (.inl ⟨word, h, rfl⟩)
  · exact .inr (.inr (.inl ⟨n, h, rfl⟩))
  · exact .inr (.inr (.inr h))

/-- **The token found is the token spelled**: it ends where it could not go on. -/
theorem Token.next?_eq_some_iff {text rest : List Char} {token : Token} :
    next? text = some (token, rest) ↔ ∃ word, text = word ++ rest ∧ Spells word token rest := by
  constructor
  · intro h
    rcases next?_cases h with hsign | ⟨word, hword, rfl⟩ | ⟨n, hnumeral, rfl⟩ | hquoted
    · obtain ⟨symbol, hmem, htext, hends⟩ := exists_sign_of_nextSign? hsign
      exact ⟨_, htext, .sign hmem hends⟩
    · obtain ⟨c, tail, rfl, htext, hstart, hparts, hends⟩ := exists_word_of_scanIdentifier? hword
      exact ⟨_, htext, .word hstart hparts hends⟩
    · obtain ⟨hproper, htext, hends⟩ := Numeral.text_of_scan? hnumeral
      exact ⟨_, htext, .numeral hproper hends⟩
    · exact exists_spells_of_nextQuoted? hquoted
  · rintro ⟨word, rfl, spells⟩
    exact spells.next?_eq

end DocumentStore
