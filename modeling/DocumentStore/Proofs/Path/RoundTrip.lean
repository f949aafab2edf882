import DocumentStore.Fault
import DocumentStore.Proofs.Path.Grammar
import DocumentStore.Proofs.Path.Lexing

/-!
# Paths written and read back

A path of the grammar that is written as text and read again is the very same path.  Its text reads
as tokens, and the tokens write its tree.

* `PathTree`, `TailTree`, `UnionTree`, `TermTree` — the trees of the path grammar.
* `LeftTree`, `LiteralTree` — the sides of a constraint.
* `extendsTerm` — the characters that the last token of a term may go on with.

Principal results: `PathTree.written` — the tokens of a path's text write the path.
`ofText_render` — reading the text of a path gives the path.
-/

set_option autoImplicit false

namespace DocumentStore

/-! ## The trees of the grammar -/

/-- The left side of a constraint: an attribute of any name, or the alias. -/
inductive LeftTree : PathExpr → Prop
  | name (name : String) : LeftTree (.attribute name)
  | current : LeftTree .alias

/-- The right side of a comparison: a text, a truth value or a finite number. -/
inductive LiteralTree : PathExpr → Prop
  | string (text : String) : LiteralTree (.string text)
  | boolean (b : Bool) : LiteralTree (.boolean b)
  | number (x : Finite) : LiteralTree (.number (.finite x))

/-- An integer that a double holds without rounding, and so all between it and zero: what an index
and each of the three numbers of a range are. -/
abbrev Exact (i : Int) : Prop := i.natAbs ≤ 2 ^ 53

mutual

/-- The segments of a path: attributes and unions, at least one, and a descent in last place at
most. -/
inductive PathTree : List PathExpr → Prop
  | name {rest : List PathExpr} (name : String) (hrest : TailTree rest) :
    PathTree (.attribute name :: rest)
  | union {terms rest : List PathExpr} (hterms : UnionTree terms) (hrest : TailTree rest) :
    PathTree (.union terms :: rest)
  | descent {segments : List PathExpr} (h : PathTree segments) :
    PathTree [.recursive (.path segments)]

/-- The segments behind the first: none, or again segments of a path. -/
inductive TailTree : List PathExpr → Prop
  | done : TailTree []
  | more {segments : List PathExpr} (h : PathTree segments) : TailTree segments

/-- The terms of a union: at least one. -/
inductive UnionTree : List PathExpr → Prop
  | one {term : PathExpr} (h : TermTree term) : UnionTree [term]
  | more {term : PathExpr} {terms : List PathExpr} (h : TermTree term) (hterms : UnionTree terms) :
    UnionTree (term :: terms)

/-- A term of a union: a path, an index, a range or a constraint. -/
inductive TermTree : PathExpr → Prop
  | path {segments : List PathExpr} (h : PathTree segments) : TermTree (.path segments)
  | index {i : Int} (h : Exact i) : TermTree (.index i)
  | range {first last : Int} {step : Option Int} (hfirst : Exact first) (hlast : Exact last)
    (hstep : ∀ i ∈ step, Exact i) : TermTree (.range first last step)
  | present {left : PathExpr} (hleft : LeftTree left) : TermTree (.constraint .present left none)
  | compare {left right : PathExpr} (c : Comparator) (hleft : LeftTree left)
    (hright : LiteralTree right) : TermTree (.constraint (.compare c) left (some right))

end

/-! ## Attributes, literals and integers as they are written -/

open PathExpr

theorem wordToken_of_isPlainName {name : List Char} (h : isPlainName name = true) :
    wordToken name = .identifier (String.ofList name) := by
  cases name with
  | nil => cases h
  | cons c rest =>
    simp only [isPlainName, Bool.and_eq_true, bne_iff_ne] at h
    rw [wordToken, if_neg h.1.2, if_neg h.2]

/-- **The text of an attribute reads as one token**, whatever its name is. -/
theorem attribute_written (name : String) :
    ∃ token, WritesAttribute token (.attribute name) ∧
      ReadsPlain isIdentifierPart (attributeText name) token := by
  unfold attributeText
  by_cases hplain : isPlainName name.toList = true
  · rw [if_pos hplain]
    refine ⟨.identifier name, .identifier name, ?_⟩
    have htoken := wordToken_of_isPlainName hplain
    rw [String.ofList_toList] at htoken
    cases hname : name.toList with
    | nil => simp [hname, isPlainName] at hplain
    | cons c rest =>
      rw [hname] at htoken hplain
      simp only [isPlainName, Bool.and_eq_true] at hplain
      rw [← htoken]
      exact reads_word hplain.1.1.1 hplain.1.1.2
  · rw [if_neg hplain]
    refine ⟨.quoted name .single, .quoted name, ?_⟩
    have hreads := reads_quote .single name.toList
    rw [String.ofList_toList] at hreads
    exact hreads.mono (fun c h => by cases h)

/-- The characters that the last token of a term may go on with. -/
def extendsTerm (c : Char) : Bool := isIdentifierPart c || c == '.'

theorem extendsTerm_of_word {c : Char} (h : isIdentifierPart c = true) : extendsTerm c = true := by
  simp [extendsTerm, h]

theorem extendsTerm_of_numeral {c : Char} (h : extendsNumeral c = true) : extendsTerm c = true := by
  simp only [extendsNumeral, Bool.or_eq_true] at h
  obtain h | h := h
  · simp [extendsTerm, isIdentifierPart, h]
  · simp [extendsTerm, h]

/-- **The text of a literal reads as one token.** -/
theorem LiteralTree.written {literal : PathExpr} (h : LiteralTree literal) :
    ∃ token, WritesLiteral token literal ∧ ReadsPlain extendsTerm literal.text token := by
  cases h with
  | string s =>
    refine ⟨.quoted s .double, .string s, ?_⟩
    have hreads := reads_quote .double s.toList
    rw [String.ofList_toList] at hreads
    exact hreads.mono (fun c h => by cases h)
  | boolean b =>
    refine ⟨.boolean b, .boolean b, ?_⟩
    have hword (c : Char) (word : List Char) (hstart : isIdentifierStart c = true)
        (hword : word.all isIdentifierPart = true) :
        ReadsPlain extendsTerm (c :: word) (wordToken (c :: word)) :=
      (reads_word hstart hword).mono (fun _ => extendsTerm_of_word)
    cases b with
    | true => exact hword 't' ['r', 'u', 'e'] (by decide) (by decide)
    | false => exact hword 'f' ['a', 'l', 's', 'e'] (by decide) (by decide)
  | number x =>
    obtain ⟨n, proper, htext, hvalue⟩ := exists_numeral x
    refine ⟨.number n, hvalue ▸ .number n, ?_⟩
    have hnumber : (PathExpr.number (.finite x)).text = n.text := htext.symm
    rw [hnumber]
    exact (reads_numeral proper).mono (fun _ => extendsTerm_of_numeral)

/-- **The text of an integer reads as one token.** -/
theorem Exact.written {i : Int} (h : Exact i) :
    ∃ n, WritesInteger n i ∧ Reads extendsNumeral (intText i) [.number n] := by
  obtain ⟨n, proper, htext, x, hvalue, hintegral, htruncate⟩ := exists_intNumeral h
  refine ⟨n, ?_, htext ▸ (reads_numeral proper).reads⟩
  unfold Exact at h
  have hclamp : max minSigned (min maxSigned x.truncate) = i := by
    rw [htruncate]
    unfold minSigned maxSigned
    omega
  simp only [WritesInteger, integral, hvalue, Binary64.toIntClamped?, hintegral, if_true, hclamp]

theorem LeftTree.written {left : PathExpr} (h : LeftTree left) :
    ∃ token, WritesLeft token left ∧ Reads isIdentifierPart left.text [token] := by
  cases h with
  | name name =>
    obtain ⟨token, hname, hreads⟩ := attribute_written name
    exact ⟨token, .name hname, hreads.reads⟩
  | current =>
    have hsign : ("@", Token.alias .atSign) ∈ signTable := by decide
    have hreads := reads_finalSign hsign (by decide)
    exact ⟨.alias .atSign, .current .atSign, hreads.mono (fun c h => by cases h)⟩

/-! ## Signs between the parts -/

theorem reads_bracket (b : Bracket) : Reads (fun _ => false) b.symbol.toList [.bracket b] :=
  reads_finalSign (by cases b <;> decide : (b.symbol, Token.bracket b) ∈ signTable)
    (by cases b <;> decide)

/-- Only the dot may go on, with a second one. -/
theorem reads_joint (j : Joint) (h : j ≠ .dot) :
    Reads (fun _ => false) j.symbol.toList [.joint j] := by
  have hmem : (j.symbol, Token.joint j) ∈ signTable := by cases j <;> decide
  cases j with
  | dot => exact absurd rfl h
  | descent | comma | colon | question => exact reads_finalSign hmem (by decide)

theorem reads_comma : Reads (fun _ => false) [','] [.joint .comma] :=
  reads_joint .comma (by decide)

theorem reads_colon : Reads (fun _ => false) [':'] [.joint .colon] :=
  reads_joint .colon (by decide)

theorem reads_dot : Reads (extendsSign ".") ['.'] [.joint .dot] :=
  reads_sign (by decide : (".", Token.joint .dot) ∈ signTable)

theorem reads_comparator (c : Comparator) :
    Reads (extendsSign c.symbol) c.symbol.toList [.comparator c] :=
  reads_sign (by cases c <;> decide)

/-! ## Paths, unions and terms as they are written -/

theorem TailTree.noHead {segments : List PathExpr} (h : TailTree segments) {rest : List Char}
    (clear : NoHead isIdentifierPart rest) :
    NoHead isIdentifierPart (tailText segments ++ rest) := by
  cases h with
  | done => exact clear
  | more h => cases h <;> exact noHead_cons (by decide)

theorem commaSeparated_cons (first : List Char) {rest : List (List Char)} (h : rest ≠ []) :
    commaSeparated (first :: rest) = first ++ ',' :: commaSeparated rest := by
  cases rest with
  | nil => exact absurd rfl h
  | cons _ _ => rfl

theorem UnionTree.termTexts_ne_nil {terms : List PathExpr} (h : UnionTree terms) :
    termTexts terms ≠ [] := by
  cases h <;> simp [termTexts]

theorem WritesUnion.behindComma {tokens : List Token} {terms : List PathExpr}
    (h : WritesUnion .needed tokens terms) :
    WritesTerms .needed (.joint .comma :: tokens) terms := by
  cases h with
  | terms hterm hterms => exact .more hterm hterms

theorem reads_union {terms : List PathExpr} {tail : List Char} {within back : List Token}
    (hwithin : Reads extendsTerm (commaSeparated (termTexts terms)) within)
    (hback : Reads isIdentifierPart tail back) :
    Reads isIdentifierPart (text (.union terms) ++ tail)
      (.bracket .opening :: (within ++ .bracket .closing :: back)) := by
  have htext : text (.union terms) ++ tail =
      ['['] ++ (commaSeparated (termTexts terms) ++ ']' :: tail) := by
    simp [text]
  have hopening : Reads (fun _ => false) ['['] [.bracket .opening] := reads_bracket .opening
  have hclosing : Reads (fun _ => false) [']'] [.bracket .closing] := reads_bracket .closing
  rw [htext]
  exact hopening.append_of_final
    (hwithin.append_cons (hclosing.append_of_final hback) (by decide))

theorem range_written {first last : Int} {step : Option Int} (hfirst : Exact first)
    (hlast : Exact last) (hstep : ∀ i ∈ step, Exact i) :
    ∃ tokens, WritesSlice .needed tokens (.range first last step) ∧
      Reads extendsNumeral (text (.range first last step)) tokens := by
  obtain ⟨n, hn, hreadsn⟩ := hfirst.written
  obtain ⟨m, hm, hreadsm⟩ := hlast.written
  cases step with
  | none =>
    refine ⟨_, .range hn hm, ?_⟩
    have htext : text (.range first last none) = intText first ++ ':' :: intText last := by
      simp [text]
    rw [htext]
    exact hreadsn.append_cons (reads_colon.append_of_final hreadsm) (by decide)
  | some step =>
    obtain ⟨k, hk, hreadsk⟩ := (hstep step rfl).written
    refine ⟨_, .step hn hm hk, ?_⟩
    have hback := hreadsm.append_cons (reads_colon.append_of_final hreadsk) (by decide)
    exact hreadsn.append_cons (reads_colon.append_of_final hback) (by decide)

theorem present_written {left : PathExpr} (hleft : LeftTree left) :
    ∃ tokens, WritesConstraint tokens (.constraint .present left none) ∧
      Reads (fun _ => false) (text (.constraint .present left none)) tokens := by
  obtain ⟨token, hwrites, hreads⟩ := hleft.written
  refine ⟨_, .present hwrites, ?_⟩
  have htext : text (.constraint .present left none) = text left ++ ['?'] := by
    simp [text, rightText, Relation.symbol]
  have hquestion : Reads (fun _ => false) ['?'] [.joint .question] :=
    reads_joint .question (by decide)
  rw [htext]
  exact hreads.append_cons hquestion (by decide)

theorem compare_written (c : Comparator) {left right : PathExpr} (hleft : LeftTree left)
    (hright : LiteralTree right) :
    ∃ tokens, WritesConstraint tokens (.constraint (.compare c) left (some right)) ∧
      Reads extendsTerm (text (.constraint (.compare c) left (some right))) tokens := by
  obtain ⟨token, hwrites, hreads⟩ := hleft.written
  obtain ⟨value, hliteral, hvalue⟩ := hright.written
  refine ⟨_, .compare c hwrites hliteral, ?_⟩
  have htext : text (.constraint (.compare c) left (some right)) =
      text left ++ (c.symbol.toList ++ text right) := by
    simp [text, rightText, Relation.symbol]
  have hback := (reads_comparator c).append hvalue.reads (fun rest _ => hvalue.noHead _ rest)
  rw [htext]
  -- No comparison sign starts with a character that a name goes on with.
  refine hreads.append hback (fun rest _ => ?_)
  cases c <;> exact noHead_cons (by decide)

theorem text_descent (segments : List PathExpr) :
    text (.path [.recursive (.path segments)]) = ['.', '.'] ++ text (.path segments) := by
  simp [tailText, text]

theorem tailText_descent (segments : List PathExpr) :
    tailText [.recursive (.path segments)] = ['.', '.'] ++ text (.path segments) := by
  simp [tailText, text, needsDot]

mutual

/-- **The tokens of a path's text write the path**, where it starts and behind a segment. -/
theorem PathTree.written : ∀ {segments : List PathExpr}, PathTree segments →
    (∃ tokens, WritesPath .needed tokens segments ∧
        Reads isIdentifierPart (text (.path segments)) tokens) ∧
      ∃ tokens, WritesTail .needed tokens segments ∧
        Reads isIdentifierPart (tailText segments) tokens
  | _, @PathTree.name rest name hrest => by
    obtain ⟨back, hwrites, hback⟩ := hrest.written
    obtain ⟨token, hname, hattribute⟩ := attribute_written name
    have hreads : Reads isIdentifierPart (attributeText name ++ tailText rest) (token :: back) :=
      hattribute.reads.append hback (fun _ => hrest.noHead)
    refine ⟨⟨_, .name hname hwrites, hreads⟩, _, .name hname hwrites, ?_⟩
    have htext : tailText (.attribute name :: rest) =
        ['.'] ++ (attributeText name ++ tailText rest) := by
      simp [tailText, text, needsDot]
    -- A name never starts with the second dot that would make the sign a descent.
    rw [htext]
    refine reads_dot.append hreads (fun behind _ => ?_)
    rw [List.append_assoc]
    exact hattribute.noHead "." _
  | _, .union hterms hrest => by
    obtain ⟨back, hwrites, hback⟩ := hrest.written
    obtain ⟨within, hunion, hwithin⟩ := hterms.written
    have hreads := reads_union hwithin hback
    exact ⟨⟨_, .union hunion hwrites, hreads⟩, _, .union hunion hwrites, hreads⟩
  | _, .descent hpath => by
    obtain ⟨tokens, hwrites, hback⟩ := hpath.written.1
    have hdescent : Reads (fun _ => false) ['.', '.'] [.joint .descent] :=
      reads_joint .descent (by decide)
    have hreads := hdescent.append_of_final hback
    exact ⟨⟨_, .descent hwrites, text_descent _ ▸ hreads⟩,
      _, .descent hwrites, tailText_descent _ ▸ hreads⟩

theorem TailTree.written : ∀ {segments : List PathExpr}, TailTree segments →
    ∃ tokens, WritesTail .needed tokens segments ∧
      Reads isIdentifierPart (tailText segments) tokens
  | _, .done => ⟨[], .done, reads_nil _⟩
  | _, .more h => h.written.2

theorem UnionTree.written : ∀ {terms : List PathExpr}, UnionTree terms →
    ∃ tokens, WritesUnion .needed tokens terms ∧
      Reads extendsTerm (commaSeparated (termTexts terms)) tokens
  | _, .one h => by
    obtain ⟨tokens, hwrites, hreads⟩ := h.written
    exact ⟨tokens ++ [], .terms hwrites .done, by rw [List.append_nil]; exact hreads⟩
  | _, .more h hterms => by
    obtain ⟨front, hterm, hfront⟩ := h.written
    obtain ⟨back, hunion, hback⟩ := hterms.written
    refine ⟨_, .terms hterm hunion.behindComma, ?_⟩
    rw [termTexts, commaSeparated_cons _ hterms.termTexts_ne_nil]
    exact hfront.append_cons (reads_comma.append_of_final hback) (by decide)

theorem TermTree.written : ∀ {term : PathExpr}, TermTree term →
    ∃ tokens, WritesTerm .needed tokens term ∧ Reads extendsTerm (text term) tokens
  | _, .path h => by
    obtain ⟨tokens, hwrites, hreads⟩ := h.written.1
    exact ⟨tokens, .path hwrites, hreads.mono (fun _ => extendsTerm_of_word)⟩
  | _, .index h => by
    obtain ⟨n, hinteger, hreads⟩ := h.written
    exact ⟨_, .slice (.index hinteger), hreads.mono (fun _ => extendsTerm_of_numeral)⟩
  | _, .range hfirst hlast hstep => by
    obtain ⟨tokens, hwrites, hreads⟩ := range_written hfirst hlast hstep
    exact ⟨tokens, .slice hwrites, hreads.mono (fun _ => extendsTerm_of_numeral)⟩
  | _, .present hleft => by
    obtain ⟨tokens, hwrites, hreads⟩ := present_written hleft
    exact ⟨tokens, .constraint hwrites, hreads.mono (fun _ h => by cases h)⟩
  | _, .compare c hleft hright => by
    obtain ⟨tokens, hwrites, hreads⟩ := compare_written c hleft hright
    exact ⟨tokens, .constraint hwrites, hreads⟩

end

/-! ## Reading back -/

namespace PathExpr

/-- **A path of the grammar is read back from its text.** -/
theorem ofText_render {segments : List PathExpr} (h : PathTree segments) :
    ofText (render (.path segments)) = .ok (.path segments) := by
  obtain ⟨⟨tokens, hwrites, hreads⟩, -⟩ := h.written
  have htokens : Token.ofText (render (.path segments)) = .ok tokens := by
    unfold Token.ofText render
    rw [String.toList_ofList, hreads.tokensOf_eq]
  unfold ofText ofTokensOf
  rw [htokens, Except.bind, ofTokens_of_writes hwrites]

/-- Terms of every kind. -/
def roomsTerms : List PathExpr :=
  [.index (-1), .range 0 8 (some 2), .path [.union [.range 3 4 none]],
    .constraint (.compare .eq) (.attribute "it's true") (some (.string "5\\\"")),
    .constraint (.compare .gt) .alias (some (.number (.finite ⟨true, 0, by decide +kernel⟩))),
    .constraint .present (.attribute "true") none]

/-- Segments of every kind. -/
def roomsPath : List PathExpr :=
  [.attribute "rooms", .union roomsTerms, .attribute "lamp",
    .recursive (.path [.recursive (.path [.attribute "_id"])])]

theorem ofText_render_rooms :
    PathTree roomsPath ∧
      render (.path roomsPath) =
        "rooms[-1,0:8:2,[3:4],'it\\'s true'==\"5\\\\\\\"\",@>-0,'true'?].lamp...._id" ∧
      ofText (render (.path roomsPath)) = .ok (.path roomsPath) := by
  have terms : UnionTree roomsTerms :=
    .more (.index (by decide)) (.more (.range (by decide) (by decide) (by decide))
      (.more (.path (.union (.one (.range (by decide) (by decide) (by decide))) .done))
        (.more (.compare .eq (.name _) (.string _)) (.more (.compare .gt .current (.number _))
          (.one (.present (.name _)))))))
  have tree : PathTree roomsPath :=
    .name _ (.more (.union terms (.more (.name _ (.more (.descent (.descent (.name _ .done))))))))
  exact ⟨tree, by decide +kernel, ofText_render tree⟩

end PathExpr

end DocumentStore
