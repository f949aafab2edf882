import DocumentStore.Proofs.Path.Derivation

/-!
# Walks over the tokens of a path

The reader of paths hands on the tokens that are left.  Here its rules stand in place: they share
one position in all the tokens, and put it back by hand when they give up in the middle.  Nothing
says beforehand that a rule which gives up leaves no trace, or that the rules which call each other
ever end.  So these take fuel, and come to nothing when it is spent; what a walk comes to with some
fuel, it comes to with more, and that is what it comes to.

* `Walk`, `outcome` — a walk, and what it comes to from a position.
* `sliceAt`, `constraintAt` — the rules that take several tokens before they give up.
* `pathAt`, `unionAt`, `descentAt`, `termAt` — the rules that call each other, with the loops
  `segmentsAt` and `termsAt`.
* `ComesTo` — what a walk comes to, however much fuel that takes.
* `behind` — the position of the tokens that are left.
* `located` — what a rule of the reader comes to at a position.

Principal results: `grows` — more fuel changes nothing.  `outcome_takeIf`, `outcome_sliceAt`,
`outcome_constraintAt` — at every position, the rules that call no others come to what the reader
reads there.
-/

set_option autoImplicit false

namespace DocumentStore

/-- A walk over tokens that holds a position.  It may be out of fuel; a problem ends it. -/
abbrev Walk (α : Type) := StateT Nat (ExceptT PathProblem Option) α

namespace Walk

open PathExpr (attribute? alias? literal? takeNumber rangeTail readSlice readConstraint integral
  integralStep)

/-! ## Outcomes -/

section
variable {α β : Type}

/-- What a walk from a position comes to: nothing when it is out of fuel, else a problem, or a result
and the position reached. -/
def outcome (walk : Walk α) (i : Nat) : Option (Except PathProblem (α × Nat)) := (walk.run i).run

/-- A walk from the result and the position of another. -/
def resume (next : α → Walk β) :
    Option (Except PathProblem (α × Nat)) → Option (Except PathProblem (β × Nat))
  | some (.ok (a, j)) => (next a).outcome j
  | some (.error problem) => some (.error problem)
  | none => none

theorem outcome_bind (walk : Walk α) (next : α → Walk β) (i : Nat) :
    (walk >>= next).outcome i = resume next (walk.outcome i) := by
  simp only [outcome, StateT.run_bind, ExceptT.run_bind, Option.bind_eq_bind]
  cases h : (walk.run i).run with
  | none => rfl
  | some reached => cases reached <;> rfl

theorem outcome_bind_ok {walk : Walk α} {next : α → Walk β} {i j : Nat} {a : α}
    (h : walk.outcome i = some (.ok (a, j))) : (walk >>= next).outcome i = (next a).outcome j := by
  rw [outcome_bind, h, resume]

theorem outcome_get (i : Nat) : (get : Walk Nat).outcome i = some (.ok (i, i)) := rfl

/-- A walk that is out of fuel. -/
def spent : Walk α := fun _ => ExceptT.mk none

/-- What is found without looking at a token. -/
def lift (result : Except PathProblem α) : Walk α :=
  match result with
  | .ok a => pure a
  | .error problem => throw problem

theorem outcome_bind_lift (result : Except PathProblem α) (next : α → Walk β) (i : Nat) :
    (lift result >>= next).outcome i = match result with
      | .ok a => (next a).outcome i
      | .error problem => some (.error problem) := by
  cases result <;> rfl

end

/-! ## Rules -/

/-- An attribute: an identifier or a text in single quotes. -/
def attributeOf : Token → Option PathExpr
  | .identifier name => some (.attribute name)
  | .quoted name .single => some (.attribute name)
  | _ => none

def aliasOf : Token → Option PathExpr
  | .alias _ => some .alias
  | _ => none

def numberOf : Token → Option Binary64
  | .number n => some n.toBinary64
  | _ => none

/-- A literal: a text in double quotes, a truth value or a number. -/
def literalOf : Token → Option PathExpr
  | .quoted text .double => some (.string text)
  | .boolean b => some (.boolean b)
  | .number n => some (.number n.toBinary64)
  | _ => none

def comparatorOf : Token → Option Comparator
  | .comparator c => some c
  | _ => none

section
variable (tokens : List Token)

/-- The next token, taken when it is accepted. -/
def takeIf {α : Type} (accept : Token → Option α) : Walk (Option α) := do
  let i ← get
  match tokens[i]?.bind accept with
  | some found => do
    set (i + 1)
    return some found
  | none => return none

/-- Whether the next token is this sign, which is taken then. -/
def signAt (sign : Token) : Walk Bool := do
  let found ← takeIf tokens (fun token => if token = sign then some sign else none)
  return found.isSome

def attributeAt : Walk (Option PathExpr) := takeIf tokens attributeOf

def aliasAt : Walk (Option PathExpr) := takeIf tokens aliasOf

def numberAt : Walk (Option Binary64) := takeIf tokens numberOf

def literalAt : Walk (Option PathExpr) := takeIf tokens literalOf

def comparatorAt : Walk (Option Comparator) := takeIf tokens comparatorOf

/-- The last number of a range and its step, behind the first colon. -/
def rangeTailAt : Walk (Option Binary64 × Option Binary64) := do
  let last ← numberAt tokens
  if ← signAt tokens (.joint .colon) then
    let step ← numberAt tokens
    return (last, step)
  else return (last, none)

/-- An index or a range.  All that was taken of a range without one of its ends is put back. -/
def sliceAt : Walk (Option PathExpr) := do
  let start ← get
  let first ← numberAt tokens
  if ← signAt tokens (.joint .colon) then
    let (last, step) ← rangeTailAt tokens
    match first, last with
    | some first, some last => do
      let first ← lift (integral first)
      let last ← lift (integral last)
      let step ← lift (integralStep step)
      return some (.range first last step)
    | _, _ => do
      set start
      return none
  else
    match first with
    | some i => do
      let i ← lift (integral i)
      return some (.index i)
    | none => do
      set start
      return none

/-- An attribute, an index or a range. -/
def referenceAt : Walk (Option PathExpr) := do
  match ← attributeAt tokens with
  | some name => return some name
  | none => sliceAt tokens

/-- The left side of a constraint. -/
def leftAt : Walk (Option PathExpr) := do
  match ← attributeAt tokens with
  | some name => return some name
  | none => aliasAt tokens

/-- A constraint.  Its left side is put back when no relation stands behind it. -/
def constraintAt : Walk (Option PathExpr) := do
  let start ← get
  match ← leftAt tokens with
  | none => return none
  | some left =>
    if ← signAt tokens (.joint .question) then return some (.constraint .present left none)
    else
      match ← comparatorAt tokens with
      | none => do
        set start
        return none
      | some c =>
        match ← literalAt tokens with
        | some right => return some (.constraint (.compare c) left (some right))
        | none => throw (.needsLiteral c)

mutual

/-- A path: its first segment and the segments behind it. -/
def pathAt : Nat → Walk (Option PathExpr)
  | 0 => spent
  | fuel + 1 => do
    match ← headAt fuel with
    | some head =>
      let segments ← segmentsAt fuel [head]
      return some (.path segments)
    | none => return none

def headAt : Nat → Walk (Option PathExpr)
  | 0 => spent
  | fuel + 1 => do
    match ← attributeAt tokens with
    | some name => return some name
    | none =>
      match ← unionAt fuel with
      | some union => return some union
      | none => descentAt fuel

/-- The loop over the segments of a path, behind those that it has found.  It looks for more also
behind a descent that is the first segment. -/
def segmentsAt : Nat → List PathExpr → Walk (List PathExpr)
  | 0, _ => spent
  | fuel + 1, found => do
    if tokens.length ≤ (← get) then return found
    else if ← signAt tokens (.joint .dot) then
      match ← attributeAt tokens with
      | some name => segmentsAt fuel (found ++ [name])
      | none => throw .expectedAttribute
    else
      match ← unionAt fuel with
      | some union => segmentsAt fuel (found ++ [union])
      | none =>
        match ← descentAt fuel with
        | some descent => return found ++ [descent]
        | none => return found

def unionAt : Nat → Walk (Option PathExpr)
  | 0 => spent
  | fuel + 1 => do
    if ← signAt tokens (.bracket .opening) then
      match ← termAt fuel with
      | some first =>
        let terms ← termsAt fuel [first]
        return some (.union terms)
      | none => throw .expectedFirstTerm
    else return none

/-- The loop over the terms of a union, behind those that it has found. -/
def termsAt : Nat → List PathExpr → Walk (List PathExpr)
  | 0, _ => spent
  | fuel + 1, found => do
    if ← signAt tokens (.bracket .closing) then return found
    else if ← signAt tokens (.joint .comma) then
      match ← termAt fuel with
      | some term => termsAt fuel (found ++ [term])
      | none => throw .expectedNextTerm
    else throw .expectedClosing

def descentAt : Nat → Walk (Option PathExpr)
  | 0 => spent
  | fuel + 1 => do
    if ← signAt tokens (.joint .descent) then
      match ← pathAt fuel with
      | some path => return some (.recursive path)
      | none => throw .expectedDescent
    else return none

def termAt : Nat → Walk (Option PathExpr)
  | 0 => spent
  | fuel + 1 => do
    match ← constraintAt tokens with
    | some constraint => return some constraint
    | none =>
      match ← pathAt fuel with
      | some path => return some path
      | none => referenceAt tokens

end

/-- A path that takes all tokens. -/
def wholePath (fuel : Nat) : Walk PathExpr := do
  match ← pathAt tokens fuel with
  | none => throw .expectedPath
  | some path =>
    match tokens[← get]? with
    | some token => throw (.unexpected token)
    | none => return path

end

/-! ## More fuel -/

section
variable {α β : Type}

/-- What the first walk comes to, the second does. -/
def Within (walk other : Walk α) : Prop :=
  ∀ i reached, walk.outcome i = some reached → other.outcome i = some reached

/-- What a walk comes to, however much fuel that takes. -/
def ComesTo (walk : Nat → Walk α) (i : Nat) (reached : Except PathProblem (α × Nat)) : Prop :=
  ∃ fuel, (walk fuel).outcome i = some reached

theorem Within.refl (walk : Walk α) : Within walk walk := fun _ _ h => h

theorem within_spent (walk : Walk α) : Within spent walk := by
  intro i reached h
  have hnone : (spent : Walk α).outcome i = none := rfl
  rw [hnone] at h
  cases h

theorem Within.bind {walk other : Walk α} {next after : α → Walk β} (h : Within walk other)
    (hnext : ∀ a, Within (next a) (after a)) : Within (walk >>= next) (other >>= after) := by
  intro i reached hreached
  rw [outcome_bind] at hreached ⊢
  rcases hwalk : walk.outcome i with _ | problem | ⟨a, j⟩ <;> rw [hwalk] at hreached
  · cases hreached
  · rw [h i _ hwalk]
    exact hreached
  · rw [h i _ hwalk]
    exact hnext a j reached hreached

theorem Within.mono {walk : Nat → Walk α} (h : ∀ fuel, Within (walk fuel) (walk (fuel + 1)))
    {fuel more : Nat} (hmore : fuel ≤ more) : Within (walk fuel) (walk more) := by
  induction hmore with
  | refl => exact .refl _
  | step _ ih => exact fun i reached hreached => h _ i reached (ih i reached hreached)

theorem ComesTo.unique {walk : Nat → Walk α} (h : ∀ fuel, Within (walk fuel) (walk (fuel + 1)))
    {i : Nat} {reached other : Except PathProblem (α × Nat)} (hreached : ComesTo walk i reached)
    (hother : ComesTo walk i other) : reached = other := by
  obtain ⟨fuel, hfuel⟩ := hreached
  obtain ⟨fuel', hfuel'⟩ := hother
  have hmost := Within.mono h (Nat.le_max_left fuel fuel') i _ hfuel
  rw [Within.mono h (Nat.le_max_right fuel fuel') i _ hfuel'] at hmost
  exact (Option.some.inj hmost).symm

end

section
variable (tokens : List Token)

/-- One more fuel changes nothing that a rule has come to. -/
structure Grows (fuel : Nat) : Prop where
  path : Within (pathAt tokens fuel) (pathAt tokens (fuel + 1))
  head : Within (headAt tokens fuel) (headAt tokens (fuel + 1))
  segments : ∀ found, Within (segmentsAt tokens fuel found) (segmentsAt tokens (fuel + 1) found)
  union : Within (unionAt tokens fuel) (unionAt tokens (fuel + 1))
  terms : ∀ found, Within (termsAt tokens fuel found) (termsAt tokens (fuel + 1) found)
  descent : Within (descentAt tokens fuel) (descentAt tokens (fuel + 1))
  term : Within (termAt tokens fuel) (termAt tokens (fuel + 1))

variable {tokens} {fuel : Nat}

theorem Grows.succ (h : Grows tokens fuel) : Grows tokens (fuel + 1) where
  path := by
    rw [pathAt, pathAt]
    refine h.head.bind ?_
    rintro (_ | head)
    · exact .refl _
    · exact (h.segments _).bind fun _ => .refl _
  head := by
    rw [headAt, headAt]
    refine (Within.refl _).bind ?_
    rintro (_ | name)
    · refine h.union.bind ?_
      rintro (_ | union)
      · exact h.descent
      · exact .refl _
    · exact .refl _
  segments found := by
    rw [segmentsAt, segmentsAt]
    refine (Within.refl _).bind fun i => ?_
    split
    · exact .refl _
    · refine (Within.refl _).bind ?_
      rintro (_ | _)
      · refine h.union.bind ?_
        rintro (_ | union)
        · exact h.descent.bind fun _ => .refl _
        · exact h.segments _
      · refine (Within.refl _).bind ?_
        rintro (_ | name)
        · exact .refl _
        · exact h.segments _
  union := by
    rw [unionAt, unionAt]
    refine (Within.refl _).bind ?_
    rintro (_ | _)
    · exact .refl _
    · refine h.term.bind ?_
      rintro (_ | first)
      · exact .refl _
      · exact (h.terms _).bind fun _ => .refl _
  terms found := by
    rw [termsAt, termsAt]
    refine (Within.refl _).bind ?_
    rintro (_ | _)
    · refine (Within.refl _).bind ?_
      rintro (_ | _)
      · exact .refl _
      · refine h.term.bind ?_
        rintro (_ | term)
        · exact .refl _
        · exact h.terms _
    · exact .refl _
  descent := by
    rw [descentAt, descentAt]
    refine (Within.refl _).bind ?_
    rintro (_ | _)
    · exact .refl _
    · exact h.path.bind fun _ => .refl _
  term := by
    rw [termAt, termAt]
    refine (Within.refl _).bind ?_
    rintro (_ | constraint)
    · exact h.path.bind fun _ => .refl _
    · exact .refl _

/-- **More fuel changes nothing** that a rule has come to. -/
theorem grows : ∀ fuel, Grows tokens fuel
  | 0 =>
    { path := within_spent _
      head := within_spent _
      segments := fun _ => within_spent _
      union := within_spent _
      terms := fun _ => within_spent _
      descent := within_spent _
      term := within_spent _ }
  | fuel + 1 => (grows fuel).succ

theorem within_wholePath (fuel : Nat) :
    Within (wholePath tokens fuel) (wholePath tokens (fuel + 1)) :=
  (grows fuel).path.bind fun _ => .refl _

end

/-! ## Places -/

section
variable (tokens : List Token)

/-- The position of tokens that are left behind what is read from a position on. -/
def behind (i : Nat) (rest : List Token) : Nat := i + ((tokens.drop i).length - rest.length)

variable {tokens} {i : Nat} {rest : List Token} {token : Token}

theorem behind_self (tokens : List Token) (i : Nat) : behind tokens i (tokens.drop i) = i := by
  rw [behind, Nat.sub_self, Nat.add_zero]

theorem behind_nil (tokens : List Token) (i : Nat) : tokens.length ≤ behind tokens i [] := by
  rw [behind, List.length_drop, List.length_nil]
  omega

theorem behind_cons (h : token :: rest <:+ tokens.drop i) :
    behind tokens i rest = behind tokens i (token :: rest) + 1 := by
  have hlength := h.length_le
  rw [List.length_cons] at hlength
  rw [behind, behind, List.length_cons]
  omega

theorem behind_lt (h : token :: rest <:+ tokens.drop i) :
    behind tokens i (token :: rest) < tokens.length := by
  have hlength := h.length_le
  rw [List.length_cons, List.length_drop] at hlength
  rw [behind, List.length_drop, List.length_cons]
  omega

theorem drop_behind (h : rest <:+ tokens.drop i) : tokens.drop (behind tokens i rest) = rest := by
  obtain ⟨front, hfront⟩ := h
  rw [behind, ← hfront, List.length_append, Nat.add_sub_cancel_right, ← List.drop_drop, ← hfront,
    List.drop_left]

theorem getElem?_behind (h : rest <:+ tokens.drop i) :
    tokens[behind tokens i rest]? = rest.head? := by
  rw [← List.head?_drop, drop_behind h]

theorem suffix_of_cons (h : token :: rest <:+ tokens.drop i) : rest <:+ tokens.drop i :=
  (List.suffix_cons token rest).trans h

end

section
variable {α β : Type} (tokens : List Token) (i : Nat)

/-- What a rule comes to at the position of some tokens: without a match, the position stays. -/
def located (front : List Token) (result : Except PathProblem (Found α)) :
    Except PathProblem (Option α × Nat) :=
  result.map fun
    | some (x, rest) => (some x, behind tokens i rest)
    | none => (none, behind tokens i front)

/-- A walk from where a rule has come to. -/
def resumeAt (front : List Token) (next : Option α → Walk β) :
    Except PathProblem (Found α) → Option (Except PathProblem (β × Nat))
  | .ok (some (x, rest)) => (next (some x)).outcome (behind tokens i rest)
  | .ok none => (next none).outcome (behind tokens i front)
  | .error problem => some (.error problem)

variable {tokens i}

theorem outcome_bind_located {rule : Walk (Option α)} {next : Option α → Walk β} {j : Nat}
    {front : List Token} {result : Except PathProblem (Found α)}
    (h : rule.outcome j = some (located tokens i front result)) :
    (rule >>= next).outcome j = resumeAt tokens i front next result := by
  rw [outcome_bind, h]
  rcases result with problem | _ | ⟨x, rest⟩ <;> rfl

end

/-! ## The rules of one token -/

section
variable {α : Type} {tokens : List Token} {i : Nat} {front rest : List Token}

/-- The first token, when it is accepted. -/
def accepted (accept : Token → Option α) : List Token → Found α
  | token :: rest => (accept token).map (·, rest)
  | [] => none

theorem accepted_attributeOf (front : List Token) :
    accepted attributeOf front = attribute? front := by
  rcases front with _ | ⟨token, rest⟩
  · rfl
  · cases token with
    | quoted text mark => cases mark <;> rfl
    | _ => rfl

theorem accepted_aliasOf (front : List Token) : accepted aliasOf front = alias? front := by
  rcases front with _ | ⟨token, rest⟩
  · rfl
  · cases token <;> rfl

theorem accepted_literalOf (front : List Token) : accepted literalOf front = literal? front := by
  rcases front with _ | ⟨token, rest⟩
  · rfl
  · cases token with
    | quoted text mark => cases mark <;> rfl
    | _ => rfl

theorem accepted_comparatorOf_none (h : ∀ c rest, front ≠ .comparator c :: rest) :
    accepted comparatorOf front = none := by
  rcases front with _ | ⟨token, rest⟩
  · rfl
  · cases token with
    | comparator c => exact absurd rfl (h c rest)
    | _ => rfl

theorem outcome_takeIf (accept : Token → Option α) (h : front <:+ tokens.drop i) :
    (takeIf tokens accept).outcome (behind tokens i front) =
      some (located tokens i front (.ok (accepted accept front))) := by
  rw [takeIf, outcome_bind_ok (outcome_get _), getElem?_behind h]
  cases front with
  | nil => rfl
  | cons token rest =>
    rw [List.head?_cons, Option.bind_some, accepted]
    cases accept token with
    | none => rfl
    | some x =>
      simp only [Option.map_some, located, Except.map, behind_cons h]
      rfl

theorem outcome_attributeAt (h : front <:+ tokens.drop i) :
    (attributeAt tokens).outcome (behind tokens i front) =
      some (located tokens i front (.ok (attribute? front))) := by
  rw [attributeAt, outcome_takeIf _ h, accepted_attributeOf]

theorem outcome_aliasAt (h : front <:+ tokens.drop i) :
    (aliasAt tokens).outcome (behind tokens i front) =
      some (located tokens i front (.ok (alias? front))) := by
  rw [aliasAt, outcome_takeIf _ h, accepted_aliasOf]

theorem outcome_literalAt (h : front <:+ tokens.drop i) :
    (literalAt tokens).outcome (behind tokens i front) =
      some (located tokens i front (.ok (literal? front))) := by
  rw [literalAt, outcome_takeIf _ h, accepted_literalOf]

theorem outcome_signAt_cons {sign : Token} (h : sign :: rest <:+ tokens.drop i) :
    (signAt tokens sign).outcome (behind tokens i (sign :: rest)) =
      some (.ok (true, behind tokens i rest)) := by
  rw [signAt, outcome_bind, outcome_takeIf _ h, accepted, if_pos rfl]
  rfl

theorem outcome_signAt_ne {sign : Token} (h : front <:+ tokens.drop i)
    (hne : ∀ rest, front ≠ sign :: rest) :
    (signAt tokens sign).outcome (behind tokens i front) =
      some (.ok (false, behind tokens i front)) := by
  rw [signAt, outcome_bind, outcome_takeIf _ h]
  cases front with
  | nil => rfl
  | cons token rest =>
    rw [accepted, if_neg fun heq : token = sign => hne rest (by rw [heq])]
    rfl

end

/-! ## Ranges -/

section
variable {front rest : List Token} {first last : Option Binary64}

theorem takeNumber_suffix (front : List Token) : (takeNumber front).2 <:+ front := by
  unfold takeNumber
  split
  · exact List.suffix_cons _ _
  · exact List.suffix_rfl

theorem rangeTail_colon (h : takeNumber front = (last, .joint .colon :: rest)) :
    rangeTail front = (last, takeNumber rest) := by
  simp only [rangeTail, h]

theorem rangeTail_end (h : takeNumber front = (last, rest))
    (hne : ∀ rest', rest ≠ .joint .colon :: rest') : rangeTail front = (last, none, rest) := by
  simp only [rangeTail, h]

theorem readSlice_range {x y : Binary64} {step : Option Binary64} {rest' : List Token}
    (h : takeNumber front = (some x, .joint .colon :: rest))
    (hrange : rangeTail rest = (some y, step, rest')) :
    readSlice front = (do
      let first ← integral x
      let last ← integral y
      let step ← integralStep step
      .ok (some (.range first last step, rest'))) := by
  simp only [readSlice, h, hrange]

theorem readSlice_open {step : Option Binary64} {rest' : List Token}
    (h : takeNumber front = (first, .joint .colon :: rest))
    (hrange : rangeTail rest = (last, step, rest')) (hopen : first = none ∨ last = none) :
    readSlice front = .ok none := by
  rcases hopen with rfl | rfl
  · simp only [readSlice, h]
  · cases first <;> simp only [readSlice, h, hrange]

theorem readSlice_index {x : Binary64} (h : takeNumber front = (some x, rest))
    (hne : ∀ rest', rest ≠ .joint .colon :: rest') :
    readSlice front = (do
      let i ← integral x
      .ok (some (.index i, rest))) := by
  simp only [readSlice, h]

theorem readSlice_none (h : takeNumber front = (none, rest)) : readSlice front = .ok none := by
  simp only [readSlice, h]

variable {tokens : List Token} {i : Nat}

theorem outcome_numberAt (h : front <:+ tokens.drop i) :
    (numberAt tokens).outcome (behind tokens i front) =
      some (.ok ((takeNumber front).1, behind tokens i (takeNumber front).2)) := by
  rw [numberAt, outcome_takeIf _ h]
  rcases front with _ | ⟨token, rest⟩
  · rfl
  · cases token <;> rfl

theorem outcome_rangeTailAt (h : front <:+ tokens.drop i) :
    (rangeTailAt tokens).outcome (behind tokens i front) =
      some (.ok (((rangeTail front).1, (rangeTail front).2.1),
        behind tokens i (rangeTail front).2.2)) := by
  rw [rangeTailAt, outcome_bind_ok (outcome_numberAt h)]
  have hsuffix := (takeNumber_suffix front).trans h
  rcases htake : takeNumber front with ⟨last, rest⟩
  rw [htake] at hsuffix
  by_cases hcolon : ∃ rest', rest = .joint .colon :: rest'
  · obtain ⟨rest', rfl⟩ := hcolon
    rw [outcome_bind_ok (outcome_signAt_cons hsuffix), rangeTail_colon htake, if_pos rfl,
      outcome_bind_ok (outcome_numberAt (suffix_of_cons hsuffix))]
    rfl
  · have hne := not_exists.mp hcolon
    rw [outcome_bind_ok (outcome_signAt_ne hsuffix hne), rangeTail_end htake hne]
    rfl

/-- **An index or a range is found where the reader reads one.**  When it is none, the position is
back at the start, however many of its tokens were taken. -/
theorem outcome_sliceAt (h : front <:+ tokens.drop i) :
    (sliceAt tokens).outcome (behind tokens i front) =
      some (located tokens i front (readSlice front)) := by
  rw [sliceAt, outcome_bind_ok (outcome_get _), outcome_bind_ok (outcome_numberAt h)]
  have hsuffix := (takeNumber_suffix front).trans h
  rcases htake : takeNumber front with ⟨first, rest⟩
  rw [htake] at hsuffix
  by_cases hcolon : ∃ rest', rest = .joint .colon :: rest'
  · obtain ⟨rest', rfl⟩ := hcolon
    rw [outcome_bind_ok (outcome_signAt_cons hsuffix), if_pos rfl,
      outcome_bind_ok (outcome_rangeTailAt (suffix_of_cons hsuffix))]
    rcases hrange : rangeTail rest' with ⟨last, step, rest''⟩
    match first, last with
    | none, _ =>
      rw [readSlice_open htake hrange (.inl rfl)]
      rfl
    | some x, none =>
      rw [readSlice_open htake hrange (.inr rfl)]
      rfl
    | some x, some y =>
      rw [readSlice_range htake hrange]
      simp only [outcome_bind_lift]
      cases integral x <;> cases integral y <;> cases integralStep step <;> rfl
  · have hne := not_exists.mp hcolon
    rw [outcome_bind_ok (outcome_signAt_ne hsuffix hne), if_neg Bool.false_ne_true]
    cases first with
    | none =>
      rw [readSlice_none htake]
      rfl
    | some x =>
      rw [readSlice_index htake hne]
      simp only [outcome_bind_lift]
      cases integral x <;> rfl

/-- A number and a colon are taken, and put back. -/
example : (sliceAt [.number ⟨false, ['1'], []⟩, .joint .colon, .bracket .closing]).outcome 0 =
    some (.ok (none, 0)) := rfl

end

/-! ## References and constraints -/

/-- An attribute, an index or a range. -/
def readReference (front : List Token) : Except PathProblem (Found PathExpr) :=
  match attribute? front with
  | some found => .ok (some found)
  | none => readSlice front

section
variable {tokens : List Token} {i : Nat} {front rest : List Token}

theorem outcome_referenceAt (h : front <:+ tokens.drop i) :
    (referenceAt tokens).outcome (behind tokens i front) =
      some (located tokens i front (readReference front)) := by
  rw [referenceAt, outcome_bind_located (outcome_attributeAt h), readReference]
  cases attribute? front with
  | some found => rfl
  | none => exact outcome_sliceAt h

theorem outcome_leftAt (h : front <:+ tokens.drop i) :
    (leftAt tokens).outcome (behind tokens i front) =
      some (located tokens i front (.ok (attribute? front <|> alias? front))) := by
  rw [leftAt, outcome_bind_located (outcome_attributeAt h)]
  cases attribute? front with
  | some found => rfl
  | none => exact outcome_aliasAt h

theorem readConstraint_apart {left : PathExpr}
    (hleft : (attribute? front <|> alias? front) = some (left, rest))
    (hne : ∀ rest', rest ≠ .joint .question :: rest')
    (hne' : ∀ c rest', rest ≠ .comparator c :: rest') : readConstraint front = .ok none := by
  simp only [readConstraint, hleft]
  split
  · rfl
  · rename_i heq
    cases heq
    exact absurd rfl (hne _)
  · rename_i heq
    cases heq
    exact absurd rfl (hne' _ _)
  · rfl

/-- **A constraint is found where the reader reads one.**  When no relation stands behind its left
side, the position is back at the start. -/
theorem outcome_constraintAt (h : front <:+ tokens.drop i) :
    (constraintAt tokens).outcome (behind tokens i front) =
      some (located tokens i front (readConstraint front)) := by
  rw [constraintAt, outcome_bind_ok (outcome_get _), outcome_bind_located (outcome_leftAt h)]
  rcases hleft : (attribute? front <|> alias? front) with _ | ⟨left, rest⟩
  · simp only [readConstraint, hleft]
    rfl
  · obtain ⟨token, rfl, -⟩ := PathExpr.left?_sound hleft
    have hrest := suffix_of_cons h
    rw [resumeAt]
    by_cases hpresent : ∃ rest', rest = .joint .question :: rest'
    · obtain ⟨rest', rfl⟩ := hpresent
      rw [outcome_bind_ok (outcome_signAt_cons hrest)]
      simp only [readConstraint, hleft]
      rfl
    · have hne := not_exists.mp hpresent
      rw [outcome_bind_ok (outcome_signAt_ne hrest hne), if_neg Bool.false_ne_true,
        comparatorAt, outcome_bind_located (outcome_takeIf _ hrest)]
      by_cases hcompare : ∃ c rest', rest = .comparator c :: rest'
      · obtain ⟨c, rest', rfl⟩ := hcompare
        have hliteral := outcome_literalAt (suffix_of_cons hrest)
        rw [accepted, comparatorOf, Option.map_some, resumeAt, outcome_bind_located hliteral]
        simp only [readConstraint, hleft]
        cases literal? rest' <;> rfl
      · have hne' := fun c rest' heq => hcompare ⟨c, rest', heq⟩
        rw [accepted_comparatorOf_none hne', readConstraint_apart hleft hne hne']
        rfl

end

end Walk

end DocumentStore
