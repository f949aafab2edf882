import DocumentStore.Fault
import DocumentStore.Proofs.Path.Grammar
import DocumentStore.Proofs.Success

/-!
# Derivations of what is read

Whatever a rule of the reader takes off the front of a list of tokens has a derivation in the
grammar of optional steps, and the derivation writes what the rule gives.  With the other half,
`ofTokens_of_writes`, the reader is settled: it accepts what the grammar derives and nothing else.

Principal results: `path_sound` and its four companions — one for each rule.
`ofTokens_eq_ok_iff` — the reader gives a tree exactly when the tokens write it.
`ofTokens_stepless` — a range that breaks off behind its second colon is read, though the grammar
in which a step is needed does not derive it.
-/

set_option autoImplicit false

namespace DocumentStore

theorem Token.ofText_eq_ok_iff {path : String} {tokens : List Token} :
    ofText path = .ok tokens ↔ tokensOf path.toList = .ok tokens := by
  unfold ofText
  cases tokensOf path.toList <;> simp

namespace PathExpr

/-! ## The rules that call no others -/

section
variable {tokens rest : List Token} {expr : PathExpr}

theorem attribute?_sound (h : attribute? tokens = some (expr, rest)) :
    ∃ token, tokens = token :: rest ∧ WritesAttribute token expr := by
  unfold attribute? at h
  split at h
  · rename_i name behind
    cases h
    exact ⟨_, rfl, .identifier name⟩
  · rename_i name behind
    cases h
    exact ⟨_, rfl, .quoted name⟩
  · cases h

theorem left?_sound (h : (attribute? tokens <|> alias? tokens) = some (expr, rest)) :
    ∃ token, tokens = token :: rest ∧ WritesLeft token expr := by
  cases hname : attribute? tokens with
  | some found =>
    rw [hname] at h
    cases h
    obtain ⟨token, rfl, hwrites⟩ := attribute?_sound hname
    exact ⟨token, rfl, .name hwrites⟩
  | none =>
    rw [hname] at h
    change alias? tokens = some (expr, rest) at h
    unfold alias? at h
    split at h
    · rename_i sign behind
      cases h
      exact ⟨_, rfl, .current sign⟩
    · cases h

theorem literal?_sound (h : literal? tokens = some (expr, rest)) :
    ∃ token, tokens = token :: rest ∧ WritesLiteral token expr := by
  unfold literal? at h
  split at h
  · rename_i text behind
    cases h
    exact ⟨_, rfl, .string text⟩
  · rename_i b behind
    cases h
    exact ⟨_, rfl, .boolean b⟩
  · rename_i n behind
    cases h
    exact ⟨_, rfl, .number n⟩
  · cases h

/-- **A constraint that is read is one of the grammar.** -/
theorem readConstraint_sound (h : readConstraint tokens = .ok (some (expr, rest))) :
    ∃ front, tokens = front ++ rest ∧ WritesConstraint front expr := by
  unfold readConstraint at h
  split at h
  · cases h
  · rename_i left behind hleft
    cases h
    obtain ⟨token, rfl, hwrites⟩ := left?_sound hleft
    exact ⟨_, rfl, .present hwrites⟩
  · rename_i left c behind hleft
    obtain ⟨token, rfl, hwrites⟩ := left?_sound hleft
    split at h
    · rename_i right behind' hright
      cases h
      obtain ⟨value, rfl, hliteral⟩ := literal?_sound hright
      exact ⟨_, rfl, .compare c hwrites hliteral⟩
    · cases h
  · cases h

theorem takeNumber_some {x : Binary64} (h : takeNumber tokens = (some x, rest)) :
    ∃ n : Numeral, tokens = .number n :: rest ∧ x = n.toBinary64 := by
  unfold takeNumber at h
  split at h
  · rename_i n behind
    cases h
    exact ⟨n, rfl, rfl⟩
  · cases h

theorem takeNumber_none (h : takeNumber tokens = (none, rest)) : tokens = rest := by
  unfold takeNumber at h
  split at h
  · cases h
  · cases h
    rfl

/-- What stands behind the first colon of a range: its last number, and perhaps a colon and a
step behind it. -/
theorem rangeTail_some {last : Binary64} {step : Option Binary64}
    (h : rangeTail tokens = (some last, step, rest)) :
    ∃ m : Numeral, last = m.toBinary64 ∧
      ((step = none ∧ tokens = .number m :: rest) ∨
        (step = none ∧ tokens = .number m :: .joint .colon :: rest) ∨
        ∃ k : Numeral, step = some k.toBinary64 ∧
          tokens = .number m :: .joint .colon :: .number k :: rest) := by
  unfold rangeTail at h
  cases htake : takeNumber tokens with
  | mk found behind =>
    rw [htake] at h
    simp only at h
    split at h
    · rename_i behind'
      cases htake' : takeNumber behind' with
      | mk found' behind'' =>
        rw [htake'] at h
        cases h
        obtain ⟨m, rfl, rfl⟩ := takeNumber_some htake
        refine ⟨m, rfl, .inr ?_⟩
        cases found' with
        | none =>
          have hbehind := takeNumber_none htake'
          subst hbehind
          exact .inl ⟨rfl, rfl⟩
        | some x =>
          obtain ⟨k, rfl, rfl⟩ := takeNumber_some htake'
          exact .inr ⟨k, rfl, rfl⟩
    · cases h
      obtain ⟨m, rfl, rfl⟩ := takeNumber_some htake
      exact ⟨m, rfl, .inl ⟨rfl, rfl⟩⟩

theorem integralStep_some {k : Numeral} {step : Option Int}
    (h : integralStep (some k.toBinary64) = .ok step) :
    ∃ i, step = some i ∧ WritesInteger k i := by
  unfold integralStep at h
  cases hk : integral k.toBinary64 with
  | error problem =>
    simp only [hk, Except.map] at h
    cases h
  | ok i =>
    simp only [hk, Except.map] at h
    cases h
    exact ⟨i, rfl, hk⟩

/-- **An index or a range that is read is one of the grammar.** -/
theorem readSlice_sound (h : readSlice tokens = .ok (some (expr, rest))) :
    ∃ front, tokens = front ++ rest ∧ WritesSlice .optional front expr := by
  unfold readSlice at h
  cases htake : takeNumber tokens with
  | mk found behind =>
    rw [htake] at h
    simp only at h
    split at h
    · rename_i first behind'
      obtain ⟨n, rfl, rfl⟩ := takeNumber_some htake
      split at h
      · rename_i last step behind'' htail
        simp only [bind_eq_ok] at h
        obtain ⟨first, hfirst, last', hlast, step', hstep, he⟩ := h
        cases he
        obtain ⟨m, rfl, ⟨rfl, rfl⟩ | ⟨rfl, rfl⟩ | ⟨k, rfl, rfl⟩⟩ := rangeTail_some htail
        · cases hstep
          exact ⟨_, rfl, .range hfirst hlast⟩
        · cases hstep
          exact ⟨_, rfl, .stepless rfl hfirst hlast⟩
        · obtain ⟨i, rfl, hk⟩ := integralStep_some hstep
          exact ⟨_, rfl, .step hfirst hlast hk⟩
      · cases h
    · rename_i x
      obtain ⟨n, rfl, rfl⟩ := takeNumber_some htake
      rw [bind_eq_ok] at h
      obtain ⟨i, hindex, he⟩ := h
      cases he
      exact ⟨_, rfl, .index hindex⟩
    · cases h

end

/-! ## The rules that call each other

By induction on the fuel: what a rule takes is what its parts take, one behind the other.
-/

mutual

theorem path_sound : ∀ (fuel : Nat) {tokens rest : List Token} {segments : List PathExpr},
    readPath fuel tokens = .ok (some (segments, rest)) →
      ∃ front, tokens = front ++ rest ∧ WritesPath .optional front segments
  | 0, _, _, _, h => by
    unfold readPath at h
    cases h
  | fuel + 1, tokens, rest, segments, h => by
    unfold readPath at h
    split at h
    · rename_i name behind hname
      rw [bind_eq_ok] at h
      obtain ⟨⟨tail, behind'⟩, htail, he⟩ := h
      cases he
      obtain ⟨token, rfl, hwrites⟩ := attribute?_sound hname
      obtain ⟨front, rfl, hfront⟩ := tail_sound fuel htail
      exact ⟨token :: front, rfl, .name hwrites hfront⟩
    · split at h
      · rename_i behind _
        simp only [bind_eq_ok] at h
        obtain ⟨⟨terms, behind'⟩, hunion, ⟨tail, behind''⟩, htail, he⟩ := h
        cases he
        obtain ⟨within, rfl, hwithin⟩ := union_sound fuel hunion
        obtain ⟨front, rfl, hfront⟩ := tail_sound fuel htail
        exact ⟨.bracket .opening :: (within ++ .bracket .closing :: front), by simp,
          .union hwithin hfront⟩
      · rename_i behind _
        rw [bind_eq_ok] at h
        obtain ⟨found, hpath, he⟩ := h
        split at he
        · cases he
          obtain ⟨front, rfl, hfront⟩ := path_sound fuel hpath
          exact ⟨.joint .descent :: front, rfl, .descent hfront⟩
        · cases he
      · cases h

theorem tail_sound : ∀ (fuel : Nat) {tokens rest : List Token} {segments : List PathExpr},
    readTail fuel tokens = .ok (segments, rest) →
      ∃ front, tokens = front ++ rest ∧ WritesTail .optional front segments
  | 0, _, _, _, h => by
    unfold readTail at h
    cases h
    exact ⟨[], rfl, .done⟩
  | fuel + 1, tokens, rest, segments, h => by
    unfold readTail at h
    split at h
    · split at h
      · rename_i name behind hname
        rw [bind_eq_ok] at h
        obtain ⟨⟨tail, behind'⟩, htail, he⟩ := h
        cases he
        obtain ⟨token, rfl, hwrites⟩ := attribute?_sound hname
        obtain ⟨front, rfl, hfront⟩ := tail_sound fuel htail
        exact ⟨.joint .dot :: token :: front, rfl, .name hwrites hfront⟩
      · cases h
    · simp only [bind_eq_ok] at h
      obtain ⟨⟨terms, behind'⟩, hunion, ⟨tail, behind''⟩, htail, he⟩ := h
      cases he
      obtain ⟨within, rfl, hwithin⟩ := union_sound fuel hunion
      obtain ⟨front, rfl, hfront⟩ := tail_sound fuel htail
      exact ⟨.bracket .opening :: (within ++ .bracket .closing :: front), by simp,
        .union hwithin hfront⟩
    · rw [bind_eq_ok] at h
      obtain ⟨found, hpath, he⟩ := h
      split at he
      · cases he
        obtain ⟨front, rfl, hfront⟩ := path_sound fuel hpath
        exact ⟨.joint .descent :: front, rfl, .descent hfront⟩
      · cases he
    · cases h
      exact ⟨[], rfl, .done⟩

theorem union_sound : ∀ (fuel : Nat) {tokens rest : List Token} {terms : List PathExpr},
    readUnion fuel tokens = .ok (terms, rest) →
      ∃ front, tokens = front ++ .bracket .closing :: rest ∧ WritesUnion .optional front terms
  | 0, _, _, _, h => by
    unfold readUnion at h
    cases h
  | fuel + 1, tokens, rest, terms, h => by
    unfold readUnion at h
    rw [bind_eq_ok] at h
    obtain ⟨found, hterm, he⟩ := h
    split at he
    · rw [bind_eq_ok] at he
      obtain ⟨⟨more, behind⟩, hterms, he⟩ := he
      cases he
      obtain ⟨front, rfl, hfront⟩ := term_sound fuel hterm
      obtain ⟨back, rfl, hback⟩ := terms_sound fuel hterms
      exact ⟨front ++ back, by simp, .terms hfront hback⟩
    · cases he

theorem terms_sound : ∀ (fuel : Nat) {tokens rest : List Token} {terms : List PathExpr},
    readTerms fuel tokens = .ok (terms, rest) →
      ∃ front, tokens = front ++ .bracket .closing :: rest ∧ WritesTerms .optional front terms
  | 0, _, _, _, h => by
    unfold readTerms at h
    cases h
  | fuel + 1, tokens, rest, terms, h => by
    unfold readTerms at h
    split at h
    · cases h
      exact ⟨[], rfl, .done⟩
    · rw [bind_eq_ok] at h
      obtain ⟨found, hterm, he⟩ := h
      split at he
      · rw [bind_eq_ok] at he
        obtain ⟨⟨more, behind⟩, hterms, he⟩ := he
        cases he
        obtain ⟨front, rfl, hfront⟩ := term_sound fuel hterm
        obtain ⟨back, rfl, hback⟩ := terms_sound fuel hterms
        exact ⟨.joint .comma :: (front ++ back), by simp, .more hfront hback⟩
      · cases he
    · cases h

theorem term_sound : ∀ (fuel : Nat) {tokens rest : List Token} {term : PathExpr},
    readTerm fuel tokens = .ok (some (term, rest)) →
      ∃ front, tokens = front ++ rest ∧ WritesTerm .optional front term
  | 0, _, _, _, h => by
    unfold readTerm at h
    cases h
  | fuel + 1, tokens, rest, term, h => by
    unfold readTerm at h
    rw [bind_eq_ok] at h
    obtain ⟨found, hconstraint, he⟩ := h
    split at he
    · cases he
      obtain ⟨front, rfl, hfront⟩ := readConstraint_sound hconstraint
      exact ⟨front, rfl, .constraint hfront⟩
    · rw [bind_eq_ok] at he
      obtain ⟨found, hpath, he⟩ := he
      split at he
      · cases he
        obtain ⟨front, rfl, hfront⟩ := path_sound fuel hpath
        exact ⟨front, rfl, .path hfront⟩
      · obtain ⟨front, rfl, hfront⟩ := readSlice_sound he
        exact ⟨front, rfl, .slice hfront⟩

end

/-! ## What is read -/

/-- **A tree that is read is one that its tokens write.** -/
theorem ofTokens_sound {tokens : List Token} {expr : PathExpr} (h : ofTokens tokens = .ok expr) :
    ∃ segments, expr = .path segments ∧ WritesPath .optional tokens segments := by
  unfold ofTokens at h
  rw [bind_eq_ok] at h
  obtain ⟨found, hpath, he⟩ := h
  split at he
  · rename_i segments
    cases he
    obtain ⟨front, rfl, hwrites⟩ := path_sound _ hpath
    rw [List.append_nil]
    exact ⟨segments, rfl, hwrites⟩
  · cases he
  · cases he

theorem token_ofText {path : String} {tokens : List Token}
    (h : (tokensOf path.toList).toOption = some tokens) : Token.ofText path = .ok tokens :=
  Token.ofText_eq_ok_iff.mpr (eq_ok_of_toOption h)

theorem ofText_of_writes {rule : StepRule} {path : String} {tokens : List Token}
    {segments : List PathExpr} (h : (tokensOf path.toList).toOption = some tokens)
    (hwrites : WritesPath rule tokens segments) : ofText path = .ok (.path segments) := by
  unfold ofText ofTokensOf
  rw [token_ofText h, Except.bind, ofTokens_of_writes hwrites]

theorem ofText_sound {path : String} {expr : PathExpr} (h : ofText path = .ok expr) :
    ∃ tokens segments, expr = .path segments ∧ WritesPath .optional tokens segments := by
  unfold ofText ofTokensOf at h
  cases htokens : Token.ofText path with
  | error fault => rw [htokens] at h; cases h
  | ok tokens =>
    rw [htokens, Except.bind] at h
    cases hread : ofTokens tokens with
    | error problem => simp only [hread] at h; cases h
    | ok read =>
      simp only [hread] at h
      cases h
      obtain ⟨segments, rfl, hwrites⟩ := ofTokens_sound hread
      exact ⟨tokens, segments, rfl, hwrites⟩

end PathExpr

/-! ## Segments behind a descent

A descent takes all that stands behind it, so a path that ends in one goes on inside it.
-/

mutual

theorem WritesPath.append {rule : StepRule} : ∀ {front back : List Token}
    {segments more : List PathExpr}, WritesPath rule front segments → WritesTail rule back more →
      ∃ whole, WritesPath rule (front ++ back) whole
  | _, _, _, _, .name hname htail, hmore => by
    obtain ⟨whole, hwhole⟩ := htail.append hmore
    exact ⟨_, .name hname hwhole⟩
  | _, back, _, _, @WritesPath.union _ within tokens _ _ hterms htail, hmore => by
    obtain ⟨whole, hwhole⟩ := htail.append hmore
    rw [List.cons_append, List.append_assoc, List.cons_append]
    exact ⟨_, .union hterms hwhole⟩
  | _, _, _, _, .descent hpath, hmore => by
    obtain ⟨whole, hwhole⟩ := hpath.append hmore
    exact ⟨_, .descent hwhole⟩

theorem WritesTail.append {rule : StepRule} : ∀ {front back : List Token}
    {segments more : List PathExpr}, WritesTail rule front segments → WritesTail rule back more →
      ∃ whole, WritesTail rule (front ++ back) whole
  | _, _, _, more, .done, hmore => ⟨more, hmore⟩
  | _, _, _, _, .name hname htail, hmore => by
    obtain ⟨whole, hwhole⟩ := htail.append hmore
    exact ⟨_, .name hname hwhole⟩
  | _, back, _, _, @WritesTail.union _ within tokens _ _ hterms htail, hmore => by
    obtain ⟨whole, hwhole⟩ := htail.append hmore
    rw [List.cons_append, List.append_assoc, List.cons_append]
    exact ⟨_, .union hterms hwhole⟩
  | _, _, _, _, .descent hpath, hmore => by
    obtain ⟨whole, hwhole⟩ := hpath.append hmore
    exact ⟨_, .descent hwhole⟩

end

namespace PathExpr

/-- **The reader accepts what the grammar derives, and gives the tree of the derivation.**  The
step of a range is optional behind its second colon.  A descent takes all segments behind it into
its own path; no tokens are lost by that, for they are also accepted exactly when they are those of
a path and of any segments behind it. -/
theorem ofTokens_eq_ok_iff (tokens : List Token) (expr : PathExpr) :
    (ofTokens tokens = .ok expr ↔
        ∃ segments, expr = .path segments ∧ WritesPath .optional tokens segments) ∧
      ((∃ expr, ofTokens tokens = .ok expr) ↔
        ∃ front back segments more, tokens = front ++ back ∧
          WritesPath .optional front segments ∧ WritesTail .optional back more) := by
  constructor
  · constructor
    · exact ofTokens_sound
    · rintro ⟨segments, rfl, hwrites⟩
      exact ofTokens_of_writes hwrites
  · constructor
    · rintro ⟨expr, hread⟩
      obtain ⟨segments, -, hwrites⟩ := ofTokens_sound hread
      exact ⟨tokens, [], segments, [], (List.append_nil tokens).symm, hwrites, .done⟩
    · rintro ⟨front, back, segments, more, rfl, hwrites, hmore⟩
      obtain ⟨whole, hwhole⟩ := hwrites.append hmore
      exact ⟨_, ofTokens_of_writes hwhole⟩

/-- The tokens of `a[1:2:]`: the range breaks off behind its second colon. -/
def steplessTokens : List Token :=
  [.identifier "a", .bracket .opening, .number ⟨false, ['1'], []⟩, .joint .colon,
    .number ⟨false, ['2'], []⟩, .joint .colon, .bracket .closing]

theorem writesInteger_of_clamped {n : Numeral} {i : Int}
    (h : n.toBinary64.toIntClamped? minSigned maxSigned = some i) : WritesInteger n i := by
  unfold WritesInteger integral
  rw [h]

/-- A union of one range, where a step is needed: behind the number that follows its first colon,
the range ends or goes on with a step. -/
theorem writesTail_range {tokens : List Token} {first last : Int}
    (h : WritesTail .needed tokens [.union [.range first last none]]) :
    ∃ (n m : Numeral) (back : List Token), tokens = .bracket .opening :: .number n ::
      .joint .colon :: .number m :: .bracket .closing :: back := by
  cases h with
  | name hname _ => cases hname
  | union hterms _ =>
    cases hterms with
    | terms hterm hmore =>
      cases hmore
      cases hterm with
      | constraint hconstraint => cases hconstraint
      | slice hslice =>
        cases hslice with
        | range _ _ => exact ⟨_, _, _, rfl⟩
        | stepless hrule _ _ => cases hrule

/-- A range that breaks off behind its second colon is read like one without the colon, though the
grammar in which a step is needed derives no such tokens. -/
theorem ofTokens_stepless :
    Token.ofText "a[1:2:]" = .ok steplessTokens ∧
      ofTokens steplessTokens = .ok (.path [.attribute "a", .union [.range 1 2 none]]) ∧
      ∀ segments, ¬ WritesPath .needed steplessTokens segments := by
  have tokens : Token.ofText "a[1:2:]" = .ok steplessTokens :=
    token_ofText (by decide +kernel)
  have one : WritesInteger ⟨false, ['1'], []⟩ 1 := writesInteger_of_clamped (by decide +kernel)
  have two : WritesInteger ⟨false, ['2'], []⟩ 2 := writesInteger_of_clamped (by decide +kernel)
  have read : ofTokens steplessTokens = .ok (.path [.attribute "a", .union [.range 1 2 none]]) :=
    ofTokens_of_writes
      (.name (.identifier "a") (.union (.terms (.slice (.stepless rfl one two)) .done) .done))
  refine ⟨tokens, read, ?_⟩
  intro segments hwrites
  -- A derivation would be one of the tree that is read.
  have hread := ofTokens_of_writes hwrites
  rw [read] at hread
  cases hread
  generalize htokens : steplessTokens = tokens at hwrites
  cases hwrites with
  | name _ htail =>
    obtain ⟨n, m, back, rfl⟩ := writesTail_range htail
    cases htokens

end PathExpr

end DocumentStore
