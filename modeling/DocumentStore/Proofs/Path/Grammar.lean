import DocumentStore.Path.Parser

/-!
# The grammar of paths

The grammar as a relation between tokens and the trees that they write, apart from the reader: one
constructor for every production.

    Path       = (Attribute | Union) Tail | Recursive
    Tail       = { "." Attribute | Union } [ Recursive ]
    Recursive  = ".." Path
    Union      = Term { "," Term }, between square brackets
    Term       = Constraint | Path | Slice
    Constraint = (Attribute | Alias) ("?" | Comparator Literal)
    Slice      = Number [ ":" Number [ ":" Number ] ]

The grammar is that of one of two step rules.  Where the step is needed, a slice is as above; where
it is optional, a range may also end at its second colon.

* `StepRule` — what stands behind the second colon of a range.
* `WritesPath`, `WritesTail`, `WritesUnion`, `WritesTerms`, `WritesTerm` — the rules that call each
  other.
* `WritesAttribute`, `WritesLeft`, `WritesLiteral`, `WritesConstraint`, `WritesSlice` — the rules
  below them.
* `TermEnds`, `PathEnds` — what stands behind a term, and behind a path.

Principal result: `ofTokens_of_writes` — the reader gives the tree that the tokens write.
`WritesPath.reads` and its four companions say the same of each rule, whatever stands behind.
-/

set_option autoImplicit false

namespace DocumentStore

/-! ## The productions -/

/-- `Attribute`: an identifier, or a text in single quotes. -/
inductive WritesAttribute : Token → PathExpr → Prop
  | identifier (name : String) : WritesAttribute (.identifier name) (.attribute name)
  | quoted (name : String) : WritesAttribute (.quoted name .single) (.attribute name)

/-- The left side of a constraint: an attribute or an alias. -/
inductive WritesLeft : Token → PathExpr → Prop
  | name {token : Token} {name : PathExpr} (h : WritesAttribute token name) :
    WritesLeft token name
  | current (sign : AliasSign) : WritesLeft (.alias sign) .alias

/-- `Literal`: a text in double quotes, a truth value or a number. -/
inductive WritesLiteral : Token → PathExpr → Prop
  | string (text : String) : WritesLiteral (.quoted text .double) (.string text)
  | boolean (b : Bool) : WritesLiteral (.boolean b) (.boolean b)
  | number (n : Numeral) : WritesLiteral (.number n) (.number n.toBinary64)

/-- `Constraint`. -/
inductive WritesConstraint : List Token → PathExpr → Prop
  | present {token : Token} {left : PathExpr} (hleft : WritesLeft token left) :
    WritesConstraint [token, .joint .question] (.constraint .present left none)
  | compare {token value : Token} {left right : PathExpr} (c : Comparator)
    (hleft : WritesLeft token left) (hright : WritesLiteral value right) :
    WritesConstraint [token, .comparator c, value]
      (.constraint (.compare c) left (some right))

/-- A number that writes an integer. -/
abbrev WritesInteger (n : Numeral) (i : Int) : Prop := PathExpr.integral n.toBinary64 = .ok i

/-- What stands behind the second colon of a range: always a step, or a step or nothing. -/
inductive StepRule where
  | needed
  | optional
  deriving DecidableEq

/-- `Slice`: an index, or a range with or without a step. -/
inductive WritesSlice (rule : StepRule) : List Token → PathExpr → Prop
  | index {n : Numeral} {i : Int} (h : WritesInteger n i) : WritesSlice rule [.number n] (.index i)
  | range {n m : Numeral} {first last : Int} (hfirst : WritesInteger n first)
    (hlast : WritesInteger m last) :
    WritesSlice rule [.number n, .joint .colon, .number m] (.range first last none)
  | step {n m k : Numeral} {first last step : Int} (hfirst : WritesInteger n first)
    (hlast : WritesInteger m last) (hstep : WritesInteger k step) :
    WritesSlice rule [.number n, .joint .colon, .number m, .joint .colon, .number k]
      (.range first last (some step))
  | stepless {n m : Numeral} {first last : Int} (hrule : rule = .optional)
    (hfirst : WritesInteger n first) (hlast : WritesInteger m last) :
    WritesSlice rule [.number n, .joint .colon, .number m, .joint .colon] (.range first last none)

mutual

/-- `Path`: its segments. -/
inductive WritesPath (rule : StepRule) : List Token → List PathExpr → Prop
  | name {token : Token} {name : PathExpr} {tokens : List Token} {segments : List PathExpr}
    (hname : WritesAttribute token name) (htail : WritesTail rule tokens segments) :
    WritesPath rule (token :: tokens) (name :: segments)
  | union {within tokens : List Token} {terms segments : List PathExpr}
    (hterms : WritesUnion rule within terms) (htail : WritesTail rule tokens segments) :
    WritesPath rule (.bracket .opening :: (within ++ .bracket .closing :: tokens))
      (.union terms :: segments)
  | descent {tokens : List Token} {segments : List PathExpr}
    (hpath : WritesPath rule tokens segments) :
    WritesPath rule (.joint .descent :: tokens) [.recursive (.path segments)]

/-- `Tail`: the segments behind the first. -/
inductive WritesTail (rule : StepRule) : List Token → List PathExpr → Prop
  | done : WritesTail rule [] []
  | name {token : Token} {name : PathExpr} {tokens : List Token} {segments : List PathExpr}
    (hname : WritesAttribute token name) (htail : WritesTail rule tokens segments) :
    WritesTail rule (.joint .dot :: token :: tokens) (name :: segments)
  | union {within tokens : List Token} {terms segments : List PathExpr}
    (hterms : WritesUnion rule within terms) (htail : WritesTail rule tokens segments) :
    WritesTail rule (.bracket .opening :: (within ++ .bracket .closing :: tokens))
      (.union terms :: segments)
  | descent {tokens : List Token} {segments : List PathExpr}
    (hpath : WritesPath rule tokens segments) :
    WritesTail rule (.joint .descent :: tokens) [.recursive (.path segments)]

/-- `Union`: its terms, without the brackets. -/
inductive WritesUnion (rule : StepRule) : List Token → List PathExpr → Prop
  | terms {front back : List Token} {term : PathExpr} {terms : List PathExpr}
    (hterm : WritesTerm rule front term) (hterms : WritesTerms rule back terms) :
    WritesUnion rule (front ++ back) (term :: terms)

/-- The terms behind the first, a comma before each. -/
inductive WritesTerms (rule : StepRule) : List Token → List PathExpr → Prop
  | done : WritesTerms rule [] []
  | more {front back : List Token} {term : PathExpr} {terms : List PathExpr}
    (hterm : WritesTerm rule front term) (hterms : WritesTerms rule back terms) :
    WritesTerms rule (.joint .comma :: (front ++ back)) (term :: terms)

/-- `Term`. -/
inductive WritesTerm (rule : StepRule) : List Token → PathExpr → Prop
  | constraint {tokens : List Token} {expr : PathExpr} (h : WritesConstraint tokens expr) :
    WritesTerm rule tokens expr
  | path {tokens : List Token} {segments : List PathExpr} (h : WritesPath rule tokens segments) :
    WritesTerm rule tokens (.path segments)
  | slice {tokens : List Token} {expr : PathExpr} (h : WritesSlice rule tokens expr) :
    WritesTerm rule tokens expr

end

/-! ## The rules that call no others -/

/-- What stands behind a term: a comma or the closing bracket. -/
inductive TermEnds : List Token → Prop
  | comma (rest : List Token) : TermEnds (.joint .comma :: rest)
  | closing (rest : List Token) : TermEnds (.bracket .closing :: rest)

/-- What stands behind a path: nothing, or the end of the term that it is. -/
inductive PathEnds : List Token → Prop
  | nothing : PathEnds []
  | term {rest : List Token} (h : TermEnds rest) : PathEnds rest

namespace PathExpr

variable {rule : StepRule} {token : Token} {tokens rest : List Token} {expr : PathExpr}
  {segments : List PathExpr}

theorem attribute?_of_writes (h : WritesAttribute token expr) (rest : List Token) :
    attribute? (token :: rest) = some (expr, rest) := by
  cases h <;> rfl

theorem left?_of_writes (h : WritesLeft token expr) (rest : List Token) :
    (attribute? (token :: rest) <|> alias? (token :: rest)) = some (expr, rest) := by
  cases h with
  | name h => rw [attribute?_of_writes h]; rfl
  | current sign => rfl

theorem literal?_of_writes (h : WritesLiteral token expr) (rest : List Token) :
    literal? (token :: rest) = some (expr, rest) := by
  cases h <;> rfl

/-- **A constraint is read as one**, whatever stands behind. -/
theorem readConstraint_of_writes (h : WritesConstraint tokens expr) (rest : List Token) :
    readConstraint (tokens ++ rest) = .ok (some (expr, rest)) := by
  cases h with
  | present hleft =>
    simp only [List.cons_append, readConstraint, left?_of_writes hleft, List.nil_append]
  | compare c hleft hright =>
    simp only [List.cons_append, readConstraint, left?_of_writes hleft, List.nil_append,
      literal?_of_writes hright]

/-- **An index or a range is read as one**, up to the end of the term. -/
theorem readSlice_of_writes (h : WritesSlice rule tokens expr) (hrest : TermEnds rest) :
    readSlice (tokens ++ rest) = .ok (some (expr, rest)) := by
  cases h with
  | index hfirst =>
    cases hrest <;> simp only [List.cons_append, List.nil_append, readSlice, takeNumber, bind,
      Except.bind, hfirst]
  | range hfirst hlast =>
    cases hrest <;> simp only [List.cons_append, List.nil_append, readSlice, takeNumber, rangeTail,
      integralStep, bind, Except.bind, hfirst, hlast]
  | step hfirst hlast hstep =>
    simp only [List.cons_append, List.nil_append, readSlice, takeNumber, rangeTail, integralStep,
      bind, Except.bind, Except.map, hfirst, hlast, hstep]
  | stepless _ hfirst hlast =>
    cases hrest <;> simp only [List.cons_append, List.nil_append, readSlice, takeNumber, rangeTail,
      integralStep, bind, Except.bind, hfirst, hlast]

/-- A number starts neither a constraint nor a path. -/
theorem readSlice_first (h : WritesSlice rule tokens expr) (rest : List Token) (fuel : Nat) :
    readConstraint (tokens ++ rest) = .ok none ∧ readPath fuel (tokens ++ rest) = .ok none := by
  have hpath (n : Numeral) (behind : List Token) :
      readPath fuel (.number n :: behind) = .ok none := by
    cases fuel <;> rw [readPath.eq_def]
    rfl
  cases h with
  | index _ => exact ⟨rfl, hpath _ _⟩
  | range _ _ => exact ⟨rfl, hpath _ _⟩
  | step _ _ _ => exact ⟨rfl, hpath _ _⟩
  | stepless _ _ _ => exact ⟨rfl, hpath _ _⟩

/-- A path in a union is no constraint: no relation stands behind its first attribute. -/
theorem readConstraint_of_writesPath (h : WritesPath rule tokens segments) (hrest : TermEnds rest) :
    readConstraint (tokens ++ rest) = .ok none := by
  cases h with
  | name hname htail =>
    rw [List.cons_append, readConstraint, left?_of_writes (.name hname)]
    cases htail with
    | done => cases hrest <;> rfl
    | name _ _ => rfl
    | union _ _ => rfl
    | descent _ => rfl
  | union _ _ => rfl
  | descent _ => rfl

end PathExpr

/-! ## The rules that call each other

Every rule reads its tokens when it has fuel for four calls a token: a token taken is at most three
calls away from the one before, and a term is one call further away from its first token.
-/

open PathExpr

variable {rule : StepRule}

theorem WritesPath.length_pos {tokens : List Token} {segments : List PathExpr}
    (h : WritesPath rule tokens segments) : 0 < tokens.length := by
  cases h <;> exact Nat.succ_pos _

theorem WritesTerm.length_pos {tokens : List Token} {expr : PathExpr}
    (h : WritesTerm rule tokens expr) : 0 < tokens.length := by
  cases h with
  | constraint h => cases h <;> exact Nat.succ_pos _
  | path h => exact h.length_pos
  | slice h => cases h <;> exact Nat.succ_pos _

theorem WritesTerms.termEnds {tokens : List Token} {terms : List PathExpr}
    (h : WritesTerms rule tokens terms) (rest : List Token) :
    TermEnds (tokens ++ .bracket .closing :: rest) := by
  cases h with
  | done => exact .closing rest
  | more _ _ => exact .comma _

mutual

theorem WritesPath.reads {tokens : List Token} {segments : List PathExpr}
    (h : WritesPath rule tokens segments) (fuel : Nat) (hfuel : 4 * tokens.length ≤ fuel)
    (rest : List Token) (hrest : PathEnds rest) :
    readPath fuel (tokens ++ rest) = .ok (some (segments, rest)) := by
  have hpos := h.length_pos
  obtain ⟨fuel, rfl⟩ := Nat.exists_eq_add_one.2 (show 0 < fuel by omega)
  cases h with
  | @name token name tokens segments hname htail =>
    rw [List.length_cons] at hfuel
    have hread := htail.reads fuel (by omega) rest hrest
    rw [List.cons_append, readPath.eq_def]
    simp only [attribute?_of_writes hname, hread, bind, Except.bind]
  | @union within tokens terms segments hterms htail =>
    rw [List.length_cons, List.length_append, List.length_cons] at hfuel
    have hread := hterms.reads fuel (by omega) (tokens ++ rest)
    have hread' := htail.reads fuel (by omega) rest hrest
    rw [List.cons_append, List.append_assoc, readPath.eq_def]
    simp only [attribute?, List.cons_append, hread, hread', bind, Except.bind]
  | @descent tokens segments hpath =>
    rw [List.length_cons] at hfuel
    have hread := hpath.reads fuel (by omega) rest hrest
    rw [List.cons_append, readPath.eq_def]
    simp only [attribute?, hread, bind, Except.bind]

theorem WritesTail.reads {tokens : List Token} {segments : List PathExpr}
    (h : WritesTail rule tokens segments) (fuel : Nat) (hfuel : 4 * tokens.length ≤ fuel)
    (rest : List Token) (hrest : PathEnds rest) :
    readTail fuel (tokens ++ rest) = .ok (segments, rest) := by
  cases h with
  | done =>
    cases fuel with
    | zero => rw [List.nil_append, readTail]
    | succ fuel => obtain _ | (_ | _) := hrest <;> rw [List.nil_append, readTail.eq_def]
  | @name token name tokens segments hname htail =>
    rw [List.length_cons, List.length_cons] at hfuel
    obtain ⟨fuel, rfl⟩ := Nat.exists_eq_add_one.2 (show 0 < fuel by omega)
    have hread := htail.reads fuel (by omega) rest hrest
    rw [List.cons_append, List.cons_append, readTail.eq_def]
    simp only [attribute?_of_writes hname, hread, bind, Except.bind]
  | @union within tokens terms segments hterms htail =>
    rw [List.length_cons, List.length_append, List.length_cons] at hfuel
    obtain ⟨fuel, rfl⟩ := Nat.exists_eq_add_one.2 (show 0 < fuel by omega)
    have hread := hterms.reads fuel (by omega) (tokens ++ rest)
    have hread' := htail.reads fuel (by omega) rest hrest
    rw [List.cons_append, List.append_assoc, readTail.eq_def]
    simp only [List.cons_append, hread, hread', bind, Except.bind]
  | @descent tokens segments hpath =>
    rw [List.length_cons] at hfuel
    obtain ⟨fuel, rfl⟩ := Nat.exists_eq_add_one.2 (show 0 < fuel by omega)
    have hread := hpath.reads fuel (by omega) rest hrest
    rw [List.cons_append, readTail.eq_def]
    simp only [hread, bind, Except.bind]

theorem WritesUnion.reads {tokens : List Token} {terms : List PathExpr}
    (h : WritesUnion rule tokens terms) (fuel : Nat) (hfuel : 4 * (tokens.length + 1) ≤ fuel)
    (rest : List Token) :
    readUnion fuel (tokens ++ .bracket .closing :: rest) = .ok (terms, rest) := by
  cases h with
  | @terms front back term terms hterm hterms =>
    rw [List.length_append] at hfuel
    have hpos := hterm.length_pos
    obtain ⟨fuel, rfl⟩ := Nat.exists_eq_add_one.2 (show 0 < fuel by omega)
    have hread := hterm.reads fuel (by omega) _ (hterms.termEnds rest)
    have hread' := hterms.reads fuel (by omega) rest
    rw [List.append_assoc, readUnion.eq_def]
    simp only [hread, hread', bind, Except.bind]

theorem WritesTerms.reads {tokens : List Token} {terms : List PathExpr}
    (h : WritesTerms rule tokens terms) (fuel : Nat) (hfuel : 4 * (tokens.length + 1) ≤ fuel)
    (rest : List Token) :
    readTerms fuel (tokens ++ .bracket .closing :: rest) = .ok (terms, rest) := by
  obtain ⟨fuel, rfl⟩ := Nat.exists_eq_add_one.2 (show 0 < fuel by omega)
  cases h with
  | done => rfl
  | @more front back term terms hterm hterms =>
    rw [List.length_cons, List.length_append] at hfuel
    have hread := hterm.reads fuel (by omega) _ (hterms.termEnds rest)
    have hread' := hterms.reads fuel (by omega) rest
    rw [List.cons_append, List.append_assoc, readTerms.eq_def]
    simp only [hread, hread', bind, Except.bind]

theorem WritesTerm.reads {tokens : List Token} {term : PathExpr} (h : WritesTerm rule tokens term)
    (fuel : Nat) (hfuel : 4 * tokens.length + 1 ≤ fuel) (rest : List Token)
    (hrest : TermEnds rest) : readTerm fuel (tokens ++ rest) = .ok (some (term, rest)) := by
  obtain ⟨fuel, rfl⟩ := Nat.exists_eq_add_one.2 (show 0 < fuel by omega)
  rw [readTerm.eq_def]
  cases h with
  | constraint h => simp only [readConstraint_of_writes h, bind, Except.bind]
  | path h =>
    have hread := h.reads fuel (by omega) rest (.term hrest)
    simp only [readConstraint_of_writesPath h hrest, hread, bind, Except.bind]
  | slice h =>
    simp only [(readSlice_first h rest fuel).1, (readSlice_first h rest fuel).2,
      readSlice_of_writes h hrest, bind, Except.bind]

end

/-- **The reader gives the tree that the tokens write.** -/
theorem ofTokens_of_writes {tokens : List Token} {segments : List PathExpr}
    (h : WritesPath rule tokens segments) : ofTokens tokens = .ok (.path segments) := by
  have hread := h.reads (fuelFor tokens) (by unfold fuelFor; omega) [] .nothing
  rw [List.append_nil] at hread
  simp only [ofTokens, hread, bind, Except.bind]

end DocumentStore
