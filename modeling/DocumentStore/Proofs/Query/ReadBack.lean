import DocumentStore.Proofs.Query.Operands

/-!
# Filters read back

A filter is read from every text of its pieces, whatever blanks stand between them, and nothing of
the text is left: no other grouping of the text is found.  Chains of `||` and `&&` are read by a
loop that holds what it has read so far, so a chain in front is read by the loop that its sign
belongs to: the loop arrives behind the chain with the chain as its result.

* `Filter.ReadsInOr`, `Filter.ReadsInAnd`, `Filter.ReadsInNot` — a filter is read where the three
  rules of the grammar expect one.

Principal results: `ReadsInNot.inAnd`, `ReadsInAnd.inOr`, `ReadsInOr.inNot` — a filter that binds
tightly enough is read by the rule above, and one that does not, in parentheses.  `Filter.reads` —
every filter that has a text is read by all three.  `readFilter_spaced` — reading the text of a
filter gives the filter.
-/

set_option autoImplicit false

namespace DocumentStore

variable (params : Fields Json)

/-! ## A filter where a rule expects one -/

/-- Where alternatives are read, the filter is the result so far when it has been read.  What is
left of the fuel lasts for the rest of the text. -/
def Filter.ReadsInOr (filter : Filter) : Prop :=
  ∀ more : List FilterPiece, Ends FilterWord.endsAnd more →
    ∀ {fuel : Nat} {text : List Char}, 5 * text.length + 5 ≤ fuel →
    Spaced (filter.pieces ++ more) text →
    ∃ fuel' rest, readOr params fuel text = readOrTail params fuel' filter rest ∧
      Left more text rest ∧ 5 * rest.length + 1 ≤ fuel'

/-- The same where filters joined by `&&` are read. -/
def Filter.ReadsInAnd (filter : Filter) : Prop :=
  ∀ more : List FilterPiece, Ends FilterWord.endsNot more →
    ∀ {fuel : Nat} {text : List Char}, 5 * text.length + 4 ≤ fuel →
    Spaced (grouped 1 filter.rank filter.pieces ++ more) text →
    ∃ fuel' rest, readAnd params fuel text = readAndTail params fuel' filter rest ∧
      Left more text rest ∧ 5 * rest.length + 1 ≤ fuel'

/-- Where one filter is read, the filter is read. -/
def Filter.ReadsInNot (filter : Filter) : Prop :=
  ∀ more : List FilterPiece, Ends FilterWord.endsNot more →
    ∀ {fuel : Nat} {text : List Char}, 5 * text.length + 3 ≤ fuel →
    Spaced (grouped 2 filter.rank filter.pieces ++ more) text →
    ∃ rest, readNot params fuel text = .ok (filter, rest) ∧ Left more text rest

/-! ## Where the loops stop and go on -/

theorem after?_or_eq_none {pieces : List FilterPiece} {text : List Char}
    (spaced : Spaced pieces text) (ends : Ends FilterWord.endsOr pieces) :
    after? "||".toList (skipBlanks text) = none := by
  obtain hskip | ⟨word, rest, hword, hskip⟩ := spaced.skipBlanks_of_ends ends
  · rw [hskip]
    rfl
  · rw [hskip]
    cases word with
    | closing => rfl
    | _ => cases hword

theorem after?_and_eq_none {pieces : List FilterPiece} {text : List Char}
    (spaced : Spaced pieces text) (ends : Ends FilterWord.endsAnd pieces) :
    after? "&&".toList (skipBlanks text) = none := by
  obtain hskip | ⟨word, rest, hword, hskip⟩ := spaced.skipBlanks_of_ends ends
  · rw [hskip]
    rfl
  · rw [hskip]
    cases word with
    | closing | disjunction => rfl
    | _ => cases hword

variable {params} {filter left right : Filter}

/-- **All of the alternatives are read** when no further one stands behind them. -/
theorem Filter.ReadsInOr.whole (reads : filter.ReadsInOr params) (more : List FilterPiece)
    (ends : Ends FilterWord.endsOr more) {fuel : Nat} {text : List Char}
    (enough : 5 * text.length + 5 ≤ fuel) (spaced : Spaced (filter.pieces ++ more) text) :
    ∃ rest, readOr params fuel text = .ok (filter, skipBlanks rest) ∧ Left more text rest := by
  obtain ⟨fuel', rest, hread, behind, hfuel⟩ :=
    reads more (ends.mono FilterWord.endsAnd_of_endsOr) enough spaced
  obtain ⟨fuel', rfl⟩ := Nat.exists_eq_add_one_of_ne_zero (Nat.ne_zero_of_lt hfuel)
  refine ⟨rest, ?_, behind⟩
  rw [hread, readOrTail, after?_or_eq_none behind.spaced ends]

/-- All filters joined by `&&` are read when no further one stands behind them. -/
theorem Filter.ReadsInAnd.whole (reads : filter.ReadsInAnd params) (more : List FilterPiece)
    (ends : Ends FilterWord.endsAnd more) {fuel : Nat} {text : List Char}
    (enough : 5 * text.length + 4 ≤ fuel)
    (spaced : Spaced (grouped 1 filter.rank filter.pieces ++ more) text) :
    ∃ rest, readAnd params fuel text = .ok (filter, skipBlanks rest) ∧ Left more text rest := by
  obtain ⟨fuel', rest, hread, behind, hfuel⟩ :=
    reads more (ends.mono FilterWord.endsNot_of_endsAnd) enough spaced
  obtain ⟨fuel', rfl⟩ := Nat.exists_eq_add_one_of_ne_zero (Nat.ne_zero_of_lt hfuel)
  refine ⟨rest, ?_, behind⟩
  rw [hread, readAndTail, after?_and_eq_none behind.spaced ends]

/-! ## From one rule to the next -/

theorem readNot_of_noHead {text : List Char} (clear : NoHead (· == '!') (skipBlanks text))
    (fuel : Nat) : readNot params (fuel + 1) text = readCompare params fuel (skipBlanks text) := by
  rw [readNot]
  split
  · next rest h => exact absurd (clear '!' rest h) (by decide)
  · rfl

theorem readCompare_parenthesized {fuel : Nat} {within rest after : List Char}
    (hread : readOr params fuel within = .ok (filter, rest))
    (hclose : skipBlanks rest = ')' :: after) :
    readCompare params (fuel + 1) ('(' :: within) = .ok (filter, after) := by
  simp only [readCompare, hread, hclose, expectChar_self, bind, Except.bind]

theorem Filter.ReadsInNot.inAnd (reads : filter.ReadsInNot params) (h : filter.rank ≠ 1) :
    filter.ReadsInAnd params := by
  intro more ends fuel text enough spaced
  have hgrouped : grouped 1 filter.rank filter.pieces = grouped 2 filter.rank filter.pieces := by
    unfold grouped
    split <;> split <;> first | rfl | omega
  rw [hgrouped] at spaced
  obtain ⟨fuel, rfl⟩ := Nat.exists_eq_add_one_of_ne_zero (Nat.ne_zero_of_lt enough)
  obtain ⟨rest, hread, behind⟩ := reads more ends (Nat.le_of_succ_le_succ enough) spaced
  have hshorter := behind.shorter
  refine ⟨fuel, rest, ?_, behind, by omega⟩
  simp only [readAnd, hread, bind, Except.bind]

theorem Filter.ReadsInAnd.inOr (reads : filter.ReadsInAnd params) (h : filter.rank ≠ 0) :
    filter.ReadsInOr params := by
  intro more ends fuel text enough spaced
  have hgrouped : grouped 1 filter.rank filter.pieces = filter.pieces :=
    if_pos (Nat.one_le_iff_ne_zero.2 h)
  rw [← hgrouped] at spaced
  obtain ⟨fuel, rfl⟩ := Nat.exists_eq_add_one_of_ne_zero (Nat.ne_zero_of_lt enough)
  obtain ⟨rest, hread, behind⟩ := reads.whole more ends (Nat.le_of_succ_le_succ enough) spaced
  have hshorter := behind.trimmed.shorter
  refine ⟨fuel, skipBlanks rest, ?_, behind.trimmed, by omega⟩
  simp only [readOr, hread, bind, Except.bind]

theorem Filter.ReadsInOr.inNot (reads : filter.ReadsInOr params) (h : filter.rank < 2) :
    filter.ReadsInNot params := by
  intro more ends fuel text enough spaced
  rw [grouped, if_neg (Nat.not_le.2 h), parenthesized, List.cons_append, List.append_assoc,
    List.singleton_append] at spaced
  obtain ⟨within, hopen, opened⟩ := spaced.word
  have clear : NoHead (· == '!') (skipBlanks text) := by
    rw [hopen]
    exact noHead_cons (by decide)
  obtain ⟨fuel, rfl⟩ : ∃ k, fuel = k + 2 := ⟨fuel - 2, by omega⟩
  have hfuel : 5 * within.length + 5 ≤ fuel := by
    have := opened.shorter
    omega
  obtain ⟨rest, hread, taken⟩ := reads.whole (.word .closing :: more) rfl hfuel opened.spaced
  obtain ⟨after, hclose, closed⟩ := taken.trimmed.spaced.word
  refine ⟨after, ?_, (opened.trans taken.trimmed).trans closed⟩
  rw [readNot_of_noHead clear, hopen]
  exact readCompare_parenthesized hread hclose

/-! ## One rule of the grammar after the other -/

theorem Operand.noHead {operand : Operand} (writable : operand.Writable) {more : List FilterPiece}
    {text : List Char} (spaced : Spaced (operand.pieces ++ more) text) {sign : Char}
    (h : sign ∈ notOperandHeads) : NoHead (· == sign) (skipBlanks text) := by
  obtain ⟨piece, pieces, hpieces, hstart⟩ := Operand.pieces_eq_cons writable
  rw [hpieces, List.cons_append] at spaced
  obtain ⟨written, rest, writes, hskip, -⟩ := spaced.next
  obtain ⟨c, tail, rfl, -, hnot⟩ := writes.exists_eq_cons
  rw [hskip, List.cons_append]
  exact noHead_cons (beq_false_of_ne (fun heq => hnot hstart (heq ▸ h)))

theorem readCompare_truthy {text rest : List Char} {operand : Operand} {fuel : Nat}
    (clear : NoHead (· == '(') text) (hoperand : readOperand params fuel text = .ok (operand, rest))
    (hnext : nextComparator? (skipBlanks rest) = none) :
    readCompare params (fuel + 1) text = .ok (.truthy operand, skipBlanks rest) := by
  unfold readCompare
  split
  · next rest => exact absurd (clear '(' rest rfl) (by decide)
  · simp only [hoperand, hnext, bind, Except.bind]

theorem readCompare_compare {text rest behind after : List Char} {left right : Operand}
    {c : Comparator} {fuel : Nat} (clear : NoHead (· == '(') text)
    (hleft : readOperand params fuel text = .ok (left, rest))
    (hnext : nextComparator? (skipBlanks rest) = some (c, behind))
    (hright : readOperand params fuel behind = .ok (right, after)) :
    readCompare params (fuel + 1) text = .ok (.compare c left right, after) := by
  unfold readCompare
  split
  · next rest => exact absurd (clear '(' rest rfl) (by decide)
  · simp only [hleft, hnext, hright, bind, Except.bind]

theorem truthy_reads {operand : Operand} (writable : operand.Writable) :
    Filter.ReadsInNot params (.truthy operand) := by
  intro more ends fuel text enough spaced
  obtain ⟨fuel, rfl⟩ : ∃ k, fuel = k + 2 := ⟨fuel - 2, by omega⟩
  have spaced : Spaced (operand.pieces ++ more) text := spaced
  have hfuel : (skipBlanks text).length < fuel := by
    have := length_skipBlanks_le text
    omega
  obtain ⟨rest, hoperand, taken⟩ := Operand.reads params writable more
    (ends.mono FilterWord.endsOperand_of_endsNot) hfuel spaced.trimmed
  refine ⟨skipBlanks rest, ?_, taken.trimmed.of_le (length_skipBlanks_le text)⟩
  rw [readNot_of_noHead (Operand.noHead writable spaced (by decide))]
  exact readCompare_truthy (Operand.noHead writable spaced (by decide)) hoperand
    (nextComparator?_of_ends taken.spaced ends)

theorem compare_reads (c : Comparator) {left right : Operand} (hleft : left.Writable)
    (hright : right.Writable) : Filter.ReadsInNot params (.compare c left right) := by
  intro more ends fuel text enough spaced
  obtain ⟨fuel, rfl⟩ : ∃ k, fuel = k + 2 := ⟨fuel - 2, by omega⟩
  have spaced : Spaced (left.pieces ++ .word (.comparison c) :: (right.pieces ++ more)) text := by
    rw [← List.cons_append, ← List.append_assoc]
    exact spaced
  have hfuel : (skipBlanks text).length < fuel := by
    have := length_skipBlanks_le text
    omega
  obtain ⟨rest, hreadLeft, taken⟩ := Operand.reads params hleft
    (.word (.comparison c) :: (right.pieces ++ more)) rfl hfuel spaced.trimmed
  obtain ⟨behind, hsign, compared⟩ := taken.spaced.word
  have hfuel : behind.length < fuel := Nat.lt_trans (taken.trans compared).shorter hfuel
  obtain ⟨after, hreadRight, done⟩ := Operand.reads params hright more
    (ends.mono FilterWord.endsOperand_of_endsNot) hfuel compared.spaced
  -- The sign is not the start of a longer one, for no operand starts with `=`.
  have clear : NoHead (· == '=') behind := by
    refine noHead_of_skipBlanks (fun d hblank => beq_false_of_ne ?_)
      (Operand.noHead hright compared.spaced (by decide))
    rintro rfl
    exact absurd hblank (by decide)
  have hnext : nextComparator? (skipBlanks rest) = some (c, behind) := by
    rw [hsign]
    exact nextComparator?_symbol c clear
  refine ⟨after, ?_, ((taken.trans compared).trans done).of_le (length_skipBlanks_le text)⟩
  rw [readNot_of_noHead (Operand.noHead hleft spaced (by decide))]
  exact readCompare_compare (Operand.noHead hleft spaced (by decide)) hreadLeft hnext hreadRight

theorem not_reads (reads : filter.ReadsInNot params) : Filter.ReadsInNot params (.not filter) := by
  intro more ends fuel text enough spaced
  obtain ⟨fuel, rfl⟩ := Nat.exists_eq_add_one_of_ne_zero (Nat.ne_zero_of_lt enough)
  have spaced : Spaced (.word .negation :: (grouped 2 filter.rank filter.pieces ++ more)) text :=
    spaced
  obtain ⟨within, hskip, negated⟩ := spaced.word
  have hskip : skipBlanks text = '!' :: within := hskip
  have hfuel : 5 * within.length + 3 ≤ fuel := by
    have := negated.shorter
    omega
  obtain ⟨rest, hread, taken⟩ := reads more ends hfuel negated.spaced
  refine ⟨rest, ?_, negated.trans taken⟩
  simp only [readNot, hskip, hread, Except.map]

/-- The loop for `&&` goes on with one filter more. -/
theorem and_reads (hleft : left.ReadsInAnd params) (hright : right.ReadsInNot params) :
    Filter.ReadsInAnd params (.and left right) := by
  intro more ends fuel text enough spaced
  have spaced : Spaced (grouped 1 left.rank left.pieces ++
      .word .conjunction :: (grouped 2 right.rank right.pieces ++ more)) text := by
    rw [← List.cons_append, ← List.append_assoc]
    exact spaced
  obtain ⟨fuel', rest, hread, taken, hfuel⟩ :=
    hleft (.word .conjunction :: (grouped 2 right.rank right.pieces ++ more)) rfl enough spaced
  obtain ⟨fuel', rfl⟩ := Nat.exists_eq_add_one_of_ne_zero (Nat.ne_zero_of_lt hfuel)
  obtain ⟨behind, hjoint, joined⟩ := taken.spaced.word
  have hshorter := joined.shorter
  have hfuel : 5 * behind.length + 3 ≤ fuel' := by omega
  obtain ⟨after, hreadRight, done⟩ := hright more ends hfuel joined.spaced
  have hdone := done.shorter
  refine ⟨fuel', after, ?_, (taken.trans joined).trans done, by omega⟩
  have hafter : after? "&&".toList (skipBlanks rest) = some behind :=
    after?_eq_some_iff.2 hjoint
  rw [hread, readAndTail, hafter]
  simp only [hreadRight, bind, Except.bind]

theorem or_reads (hleft : left.ReadsInOr params) (hright : right.ReadsInAnd params) :
    Filter.ReadsInOr params (.or left right) := by
  intro more ends fuel text enough spaced
  have spaced : Spaced (left.pieces ++
      .word .disjunction :: (grouped 1 right.rank right.pieces ++ more)) text := by
    rw [← List.cons_append, ← List.append_assoc]
    exact spaced
  obtain ⟨fuel', rest, hread, taken, hfuel⟩ :=
    hleft (.word .disjunction :: (grouped 1 right.rank right.pieces ++ more)) rfl enough spaced
  obtain ⟨fuel', rfl⟩ := Nat.exists_eq_add_one_of_ne_zero (Nat.ne_zero_of_lt hfuel)
  obtain ⟨behind, hjoint, joined⟩ := taken.spaced.word
  have hshorter := joined.shorter
  have hfuel : 5 * behind.length + 4 ≤ fuel' := by omega
  obtain ⟨after, hreadRight, done⟩ := hright.whole more ends hfuel joined.spaced
  have hdone := done.trimmed.shorter
  refine ⟨fuel', skipBlanks after, ?_, (taken.trans joined).trans done.trimmed, by omega⟩
  have hafter : after? "||".toList (skipBlanks rest) = some behind :=
    after?_eq_some_iff.2 hjoint
  rw [hread, readOrTail, hafter]
  simp only [hreadRight, bind, Except.bind]

/-! ## Every filter -/

variable (params)

/-- A filter is read wherever the grammar expects one. -/
structure Filter.Reads (filter : Filter) : Prop where
  inOr : filter.ReadsInOr params
  inAnd : filter.ReadsInAnd params
  inNot : filter.ReadsInNot params

variable {params}

theorem Filter.ReadsInNot.reads (reads : filter.ReadsInNot params) (h : filter.rank = 2) :
    filter.Reads params :=
  have inAnd : filter.ReadsInAnd params := reads.inAnd (by omega)
  ⟨inAnd.inOr (by omega), inAnd, reads⟩

variable (params)

/-- **Every filter that has a text is read from it, wherever the grammar expects one.** -/
theorem Filter.reads {filter : Filter} (writable : filter.Writable) : filter.Reads params := by
  induction filter with
  | compare c left right => exact (compare_reads c writable.1 writable.2).reads rfl
  | truthy operand => exact (truthy_reads writable).reads rfl
  | not filter ih => exact (not_reads (ih writable).inNot).reads rfl
  | and left right ihLeft ihRight =>
    have inAnd : Filter.ReadsInAnd params (.and left right) :=
      and_reads (ihLeft writable.1).inAnd (ihRight writable.2).inNot
    have inOr := inAnd.inOr (by decide : 1 ≠ 0)
    exact ⟨inOr, inAnd, inOr.inNot (by decide : 1 < 2)⟩
  | or left right ihLeft ihRight =>
    have inOr : Filter.ReadsInOr params (.or left right) :=
      or_reads (ihLeft writable.1).inOr (ihRight writable.2).inAnd
    have inNot := inOr.inNot (by decide : 0 < 2)
    exact ⟨inOr, inNot.inAnd (by decide : 0 ≠ 1), inNot⟩

/-- **The text of a filter is read back as the filter**, all of it, whatever the parameters are
and whatever blanks stand between the pieces. -/
theorem readFilter_spaced {filter : Filter} (writable : filter.Writable) :
    (∃ text, Spaced filter.pieces text) ∧
      ∀ text, Spaced filter.pieces text → readFilter params text = .ok (filter, []) := by
  refine ⟨exists_spaced filter.pieces, fun text spaced => ?_⟩
  rw [← List.append_nil filter.pieces] at spaced
  obtain ⟨rest, hread, behind⟩ :=
    (Filter.reads params writable).inOr.whole [] trivial (Nat.le_refl _) spaced
  rw [readFilter, filterFuel, hread, behind.spaced.skipBlanks_eq_nil]

/-- A comparison with a negative number beside a literal, both under a negation. -/
def lampFilter : Filter :=
  .not (.or (.compare .lt (.path [.key "it's", .index 0])
      (.literal (.number (.int ⟨-1, by decide⟩))))
    (.truthy (.literal .null)))

theorem readFilter_spaced_lamp :
    lampFilter.Writable ∧
      Spaced lampFilter.pieces "! (@['it\\'s'][ 0] <-1||null )".toList ∧
      readFilter [] "! (@['it\\'s'][ 0] <-1||null )".toList = .ok (lampFilter, []) := by
  have steps : ∀ step ∈ [FilterStep.key "it's", .index 0], step.Writable :=
    List.forall_mem_cons.2 ⟨trivial, List.forall_mem_cons.2 ⟨⟨by decide, by decide⟩, by simp⟩⟩
  have writable : lampFilter.Writable := ⟨⟨steps, .integer (by decide)⟩, .null⟩
  have blank : ∀ c ∈ [' '], isBlank c = true := List.forall_mem_singleton.2 (by decide)
  have zero : Numeral.Proper ⟨false, ['0'], []⟩ :=
    ⟨by decide, List.forall_mem_singleton.2 (by decide), by simp⟩
  have one : Numeral.Proper ⟨true, ['1'], []⟩ :=
    ⟨by decide, List.forall_mem_singleton.2 (by decide), by simp⟩
  have behind : Spaced [.word .disjunction, .word .null, .word .closing] "||null )".toList :=
    ((Spaced.piece blank (by simp) (.word .closing) (.done (by simp))).unspaced
      (.word .null)).unspaced (.word .disjunction)
  have compared := Spaced.piece blank (by simp) (.word (.comparison .lt))
    (behind.unspaced (.integer one rfl))
  have index := (Spaced.piece blank (by simp) (.integer zero rfl)
    (compared.unspaced (.word .stepClosing))).unspaced (.word .stepOpening)
  have key := ((index.unspaced (.word .stepClosing)).unspaced
    (.quoted .single (escaped_escapeQuoted '\'' "it's".toList))).unspaced (.word .stepOpening)
  have spaced := (Spaced.piece blank (by simp) (.word .opening)
    (key.unspaced (.word .current))).unspaced (.word .negation)
  exact ⟨writable, spaced, (readFilter_spaced [] writable).2 _ spaced⟩

end DocumentStore
