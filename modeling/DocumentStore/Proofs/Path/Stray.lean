import DocumentStore.Proofs.Path.Spacing

/-!
# Where a text breaks off

A text without tokens breaks off at the first place where no token starts: at a quotation mark
that is never matched, or at a character that starts nothing.  What stands before it is a text
with tokens.

* `Stray` — a text that starts with no token.

Principal results: `stray_iff` — no token is found exactly at a stray character or quotation mark.
`Token.ofText_stray` — the place told for a path without tokens is where it is stray.
-/

set_option autoImplicit false

namespace DocumentStore

/-! ## Where no token starts -/

/-- A text that is not blank at its start and starts with no token. -/
inductive Stray : List Char → Prop
  /-- A quotation mark with no mark behind it that closes it. -/
  | unclosed (mark : QuoteMark) {tail : List Char}
    (unmatched : ∀ written text behind, Escaped mark.char written text →
      tail ≠ written ++ mark.char :: behind) : Stray (mark.char :: tail)
  /-- A character that is no quotation mark and starts no sign, identifier or numeral. -/
  | foreign {c : Char} {tail : List Char} (notBlank : isBlank c = false)
    (notMark : ∀ mark : QuoteMark, c ≠ mark.char)
    (noSign : ∀ entry ∈ signTable, ¬ entry.1.toList <+: c :: tail)
    (noWord : isIdentifierStart c = false)
    (noNumeral : ∀ n : Numeral, n.Proper → ¬ n.text <+: c :: tail) : Stray (c :: tail)

theorem Stray.utf8Length_pos {text : List Char} (stray : Stray text) : 0 < utf8Length text := by
  cases stray with
  | unclosed mark _ => exact Nat.add_pos_left (Char.utf8Size_pos _) _
  | foreign _ _ _ _ _ => exact Nat.add_pos_left (Char.utf8Size_pos _) _

/-- A text that starts with the text of a numeral starts with a numeral, which may be longer. -/
theorem Numeral.scan?_ne_none {n : Numeral} (proper : n.Proper) {text : List Char}
    (starts : n.text <+: text) : scan? text ≠ none := by
  obtain ⟨rest, rfl⟩ := starts
  obtain ⟨d, digits, hwhole⟩ := List.exists_cons_of_ne_nil proper.whole_ne_nil
  have hdigit : isAsciiDigit d = true := proper.whole_digits d (by simp [hwhole])
  unfold scan? Numeral.text
  simp only [List.append_assoc, splitSign_text proper]
  rw [hwhole]
  simp [hdigit]

theorem Stray.next?_eq_none {text : List Char} (stray : Stray text) : Token.next? text = none := by
  rw [Option.eq_none_iff_forall_ne_some]
  rintro ⟨token, rest⟩ h
  cases stray with
  | unclosed mark unmatched =>
    rw [Token.next?_mark] at h
    obtain ⟨⟨text, tail⟩, hunquote, -⟩ := Option.map_eq_some_iff.1 h
    obtain ⟨written, hwritten, hescaped⟩ := escaped_of_unquote? hunquote
    exact unmatched _ _ _ hescaped hwritten
  | foreign notBlank notMark noSign noWord noNumeral =>
    obtain ⟨word, htext, spells⟩ := Token.next?_eq_some_iff.1 h
    cases spells with
    | sign mem _ => exact noSign _ mem ⟨_, htext.symm⟩
    | word start _ _ =>
      rw [(List.cons.inj htext).1, start] at noWord
      cases noWord
    | numeral proper _ => exact noNumeral _ proper ⟨_, htext.symm⟩
    | quoted _ _ => exact notMark _ (List.cons.inj htext).1

theorem stray_of_next?_eq_none {c : Char} {tail : List Char} (hblank : isBlank c = false)
    (h : Token.next? (c :: tail) = none) : Stray (c :: tail) := by
  by_cases hmark : ∃ mark : QuoteMark, c = mark.char
  · obtain ⟨mark, rfl⟩ := hmark
    refine .unclosed mark (fun written text behind escaped htail => ?_)
    rw [htail, Token.next?_of_escaped escaped] at h
    cases h
  · simp only [Token.next?, Option.orElse_eq_orElse, Option.orElse_eq_or, Option.or_eq_none_iff,
      Option.map_eq_none_iff] at h
    obtain ⟨hsign, hword, hnumeral, -⟩ := h
    refine .foreign hblank (fun mark hc => hmark ⟨mark, hc⟩) ?_ ?_ ?_
    · rintro entry hentry ⟨rest, hrest⟩
      have hnone := Option.map_eq_none_iff.1 (List.findSome?_eq_none_iff.1 hsign entry hentry)
      rw [after?_eq_some_iff.2 hrest.symm] at hnone
      cases hnone
    · rw [Bool.eq_false_iff]
      intro hstart
      rw [scanIdentifier?, if_pos hstart] at hword
      cases hword
    · exact fun n proper starts => Numeral.scan?_ne_none proper starts hnumeral

/-- **No token is found exactly at a stray character or quotation mark.** -/
theorem stray_iff {c : Char} {tail : List Char} (hblank : isBlank c = false) :
    Stray (c :: tail) ↔ Token.next? (c :: tail) = none :=
  ⟨Stray.next?_eq_none, stray_of_next?_eq_none hblank⟩

/-! ## Texts that break off -/

/-- A text that breaks off is cut into lexemes up to blanks before something stray. -/
theorem lexed_of_tokensOf_error {text rest : List Char} (h : tokensOf text = .error rest) :
    ∃ lexemes gap, Lexed text lexemes (gap ++ rest) ∧ Blank gap ∧ Stray rest := by
  obtain ⟨lexemes, behind, lexed, hnone⟩ := exists_lexed text
  rw [lexed.tokensOf_eq] at h
  rcases tokensOf_of_next?_eq_none hnone with ⟨-, hend⟩ | ⟨hrest, hstray⟩
  · rw [hend] at h
    cases h
  · rw [hstray] at h
    cases h
    obtain ⟨c, tail, hskip⟩ := List.exists_cons_of_ne_nil hrest
    have hblank : isBlank c = false := noHead_dropWhile isBlank behind c tail hskip
    refine ⟨lexemes, behind.takeWhile isBlank, ?_, fun _ hc => List.mem_takeWhile_imp hc, ?_⟩
    · rwa [skipBlanks, List.takeWhile_append_dropWhile]
    · rw [hskip] at hnone ⊢
      exact (stray_iff hblank).2 hnone

/-- The text before what is behind the lexemes holds their words, with the blanks as they are. -/
theorem Lexed.exists_front {text behind : List Char} {lexemes : List Lexeme}
    (lexed : Lexed text lexemes behind) :
    ∃ front, text = front ++ behind ∧
      ∀ gap : List Char, Blank gap → Respaced lexemes (front ++ gap) := by
  induction lexed with
  | done behind => exact ⟨[], rfl, fun gap blank => .done blank⟩
  | @more gap word rest behind token lexemes blank spells onward ih =>
    obtain ⟨front, rfl, respaced⟩ := ih
    refine ⟨gap ++ (word ++ front), by simp, fun tail hblank => ?_⟩
    rw [List.append_assoc, List.append_assoc]
    exact .more blank id (respaced tail hblank)

theorem utf8ByteSize_ofList : ∀ text : List Char,
    (String.ofList text).utf8ByteSize = utf8Length text
  | [] => rfl
  | c :: rest => by
    have hcons : String.ofList (c :: rest) = String.singleton c ++ String.ofList rest := by
      rw [← String.toList_inj]
      simp
    rw [hcons, String.utf8ByteSize_append, String.utf8ByteSize_singleton,
      utf8ByteSize_ofList rest, utf8Length]

/-- **A path that has no tokens breaks off at something stray.**  The place told is the number of
bytes before it, and the text before it has tokens. -/
theorem Token.ofText_stray {path : String} {fault : Fault} (h : ofText path = .error fault) :
    ∃ front back : String, path = front ++ back ∧ fault = .badToken path front.utf8ByteSize ∧
      front.utf8ByteSize < path.utf8ByteSize ∧ (∃ tokens, ofText front = .ok tokens) ∧
      Stray back.toList := by
  unfold ofText at h
  cases hresult : tokensOf path.toList with
  | ok tokens => rw [hresult] at h; cases h
  | error rest =>
    rw [hresult] at h
    cases h
    obtain ⟨lexemes, gap, lexed, blank, stray⟩ := lexed_of_tokensOf_error hresult
    obtain ⟨front, htext, respaced⟩ := lexed.exists_front
    have hfront := lexed.tokensOf_respaced (respaced gap blank)
    have hpath : path = String.ofList (front ++ gap) ++ String.ofList rest := by
      rw [← String.toList_inj]
      simp [htext]
    have hsize : path.utf8ByteSize =
        (String.ofList (front ++ gap)).utf8ByteSize + utf8Length rest := by
      rw [← utf8ByteSize_ofList rest, ← String.utf8ByteSize_append, ← hpath]
    have hwhole : utf8Length path.toList = path.utf8ByteSize := by
      rw [← utf8ByteSize_ofList, String.ofList_toList]
    have hrest : 0 < utf8Length rest := stray.utf8Length_pos
    refine ⟨_, _, hpath, ?_, by omega, ⟨_, ofText_eq_ok_iff.2 (by rwa [String.toList_ofList])⟩,
      by rwa [String.toList_ofList]⟩
    rw [hwhole, hsize, Nat.add_sub_cancel]

/-- The place told counts bytes: the letter between the quotation marks is two. -/
theorem Token.ofText_stray_sign :
    ofText "'\u00e9' =" = .error (.badToken "'\u00e9' =" 5) ∧
      ∃ front back : String, "'\u00e9' =" = front ++ back ∧ front.utf8ByteSize = 5 ∧
        (∃ tokens, ofText front = .ok tokens) ∧ Stray back.toList := by
  have hbroken : tokensOf "'\u00e9' =".toList = .error ['='] := by decide +kernel
  have hfault : ofText "'\u00e9' =" = .error (.badToken "'\u00e9' =" 5) := by
    unfold ofText
    rw [hbroken]
    rfl
  obtain ⟨front, back, hpath, hplace, -, htokens, stray⟩ := ofText_stray hfault
  injection hplace with _ hsize
  exact ⟨hfault, front, back, hpath, hsize.symm, htokens, stray⟩

end DocumentStore
