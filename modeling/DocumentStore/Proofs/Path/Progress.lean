import DocumentStore.Proofs.Path.Walk

/-!
# Progress of a walk

From every position, a walk over the tokens of a path comes to what the reader reads there, when it
has four times as much fuel as there are tokens left, and a little more.  From this its progress
follows.  A rule without a match leaves the position where it was, a match moves it forward and not
past the end, and neither the recursion of the rules nor their loops can go on for ever.

* `readWhole`, `readBracketed`, `readDescent`, `readHead` — the reader's rules by the walk's cuts.
* `Stops` — tokens that carry on no path.
* `Leaves`, `Takes` — a rule takes a token at least when it matches.
* `Follows` — the reader comes to what the walk comes to, where their fuel suffices.
* `Steady`, `Carries` — the progress of a rule, and of a loop.

Principal results: `follows` — the walk follows the reader.  `rules_steady` — the progress of all
rules, the end of their loops, and the path that the walk comes to.
-/

set_option autoImplicit false

namespace DocumentStore

namespace Walk

open PathExpr (attribute? alias? literal? readSlice readConstraint readPath readTail readUnion
  readTerms readTerm fuelFor ofTokens)

/-! ## Where a path stops

A path takes all segments that it can.  So the walk, which looks for more segments behind a descent
too, finds none there.
-/

/-- Tokens that carry on no path. -/
structure Stops (rest : List Token) : Prop where
  dot : ∀ behind, rest ≠ .joint .dot :: behind
  bracket : ∀ behind, rest ≠ .bracket .opening :: behind
  descent : ∀ behind, rest ≠ .joint .descent :: behind

theorem Stops.readTail {rest : List Token} (h : Stops rest) (fuel : Nat) :
    readTail fuel rest = .ok ([], rest) := by
  rw [PathExpr.readTail.eq_def]
  cases fuel with
  | zero => rfl
  | succ fuel =>
    simp only
    split
    · exact absurd rfl (h.dot _)
    · exact absurd rfl (h.bracket _)
    · exact absurd rfl (h.descent _)
    · rfl

theorem length_behind_attribute {front rest : List Token} {name : PathExpr}
    (h : attribute? front = some (name, rest)) : front.length = rest.length + 1 := by
  obtain ⟨token, rfl, -⟩ := PathExpr.attribute?_sound h
  rfl

theorem length_behind_union {fuel : Nat} {front rest : List Token} {terms : List PathExpr}
    (h : readUnion fuel front = .ok (terms, rest)) : rest.length < front.length := by
  obtain ⟨within, rfl, -⟩ := PathExpr.union_sound fuel h
  rw [List.length_append, List.length_cons]
  omega

mutual

theorem path_stops : ∀ (fuel : Nat) {front rest : List Token} {segments : List PathExpr},
    4 * front.length + 1 ≤ fuel → readPath fuel front = .ok (some (segments, rest)) → Stops rest
  | 0, _, _, _, hfuel, _ => by omega
  | fuel + 1, front, rest, segments, hfuel, h => by
    unfold PathExpr.readPath at h
    split at h
    · rename_i name behind' hname
      have hlength := length_behind_attribute hname
      rw [bind_eq_ok] at h
      obtain ⟨⟨tail, behind''⟩, htail, he⟩ := h
      cases he
      exact tail_stops fuel (show 4 * behind'.length + 1 ≤ fuel by omega) htail
    · split at h
      · simp only [bind_eq_ok] at h
        obtain ⟨⟨terms, behind'⟩, hunion, ⟨tail, behind''⟩, htail, he⟩ := h
        cases he
        have hlength := length_behind_union hunion
        rw [List.length_cons] at hfuel
        exact tail_stops fuel (show 4 * behind'.length + 1 ≤ fuel by omega) htail
      · rw [bind_eq_ok] at h
        obtain ⟨found, hpath, he⟩ := h
        rw [List.length_cons] at hfuel
        split at he
        · cases he
          exact path_stops fuel (by omega) hpath
        · cases he
      · cases h

theorem tail_stops : ∀ (fuel : Nat) {front rest : List Token} {segments : List PathExpr},
    4 * front.length + 1 ≤ fuel → readTail fuel front = .ok (segments, rest) → Stops rest
  | 0, _, _, _, hfuel, _ => by omega
  | fuel + 1, front, rest, segments, hfuel, h => by
    unfold PathExpr.readTail at h
    split at h
    · rw [List.length_cons] at hfuel
      split at h
      · rename_i name behind' hname
        have hlength := length_behind_attribute hname
        rw [bind_eq_ok] at h
        obtain ⟨⟨tail, behind''⟩, htail, he⟩ := h
        cases he
        exact tail_stops fuel (show 4 * behind'.length + 1 ≤ fuel by omega) htail
      · cases h
    · simp only [bind_eq_ok] at h
      obtain ⟨⟨terms, behind'⟩, hunion, ⟨tail, behind''⟩, htail, he⟩ := h
      cases he
      have hlength := length_behind_union hunion
      rw [List.length_cons] at hfuel
      exact tail_stops fuel (show 4 * behind'.length + 1 ≤ fuel by omega) htail
    · rw [bind_eq_ok] at h
      obtain ⟨found, hpath, he⟩ := h
      rw [List.length_cons] at hfuel
      split at he
      · cases he
        exact path_stops fuel (by omega) hpath
      · cases he
    · rename_i hdot hbracket hdescent
      cases h
      exact ⟨hdot, hbracket, hdescent⟩

end

/-! ## The reader's rules by the walk's cuts -/

/-- A path as one tree. -/
def readWhole (fuel : Nat) (front : List Token) : Except PathProblem (Found PathExpr) := do
  match ← readPath fuel front with
  | some (segments, rest) => .ok (some (.path segments, rest))
  | none => .ok none

/-- A union, its opening bracket included. -/
def readBracketed (fuel : Nat) : List Token → Except PathProblem (Found PathExpr)
  | .bracket .opening :: rest => do
    let (terms, rest) ← readUnion fuel rest
    .ok (some (.union terms, rest))
  | _ => .ok none

/-- A descent, its sign included. -/
def readDescent (fuel : Nat) : List Token → Except PathProblem (Found PathExpr)
  | .joint .descent :: rest => do
    match ← readWhole fuel rest with
    | some (path, rest) => .ok (some (.recursive path, rest))
    | none => .error .expectedDescent
  | _ => .ok none

/-- The first segment of a path. -/
def readHead (fuel : Nat) (front : List Token) : Except PathProblem (Found PathExpr) :=
  match attribute? front with
  | some found => .ok (some found)
  | none => do
    match ← readBracketed fuel front with
    | some found => .ok (some found)
    | none => readDescent fuel front

section
variable {fuel : Nat} {front : List Token}

theorem readBracketed_none (h : ∀ rest, front ≠ .bracket .opening :: rest) :
    readBracketed fuel front = .ok none := by
  unfold readBracketed
  split
  · exact absurd rfl (h _)
  · rfl

theorem readDescent_none (h : ∀ rest, front ≠ .joint .descent :: rest) :
    readDescent fuel front = .ok none := by
  unfold readDescent
  split
  · exact absurd rfl (h _)
  · rfl

theorem readPath_succ (hfuel : 4 * front.length ≤ fuel) :
    readPath (fuel + 1) front = (do
      match ← readHead fuel front with
      | some (head, rest) =>
        let (segments, rest) ← readTail fuel rest
        .ok (some (head :: segments, rest))
      | none => .ok none) := by
  rw [PathExpr.readPath.eq_def, readHead]
  simp only
  cases hname : attribute? front with
  | some found => rfl
  | none =>
    simp only
    split
    · rename_i rest
      rw [readBracketed]
      cases readUnion fuel rest <;> rfl
    · rename_i rest
      simp only [readBracketed, readDescent, readWhole]
      rcases hpath : readPath fuel rest with problem | _ | ⟨segments, rest'⟩
      · rfl
      · rfl
      · rw [List.length_cons] at hfuel
        have hstops := path_stops fuel (by omega) hpath
        simp only [bind, Except.bind, hstops.readTail]
    · rename_i hbracket hdescent
      simp only [bind, Except.bind, readBracketed_none hbracket, readDescent_none hdescent]

theorem readTail_succ (hne : ∀ rest, front ≠ .joint .dot :: rest) :
    readTail (fuel + 1) front = (do
      match ← readBracketed fuel front with
      | some (union, rest) =>
        let (segments, rest) ← readTail fuel rest
        .ok (union :: segments, rest)
      | none =>
        match ← readDescent fuel front with
        | some (descent, rest) => .ok ([descent], rest)
        | none => .ok ([], front)) := by
  rw [PathExpr.readTail.eq_def]
  simp only
  split
  · exact absurd rfl (hne _)
  · rename_i rest
    rw [readBracketed]
    cases readUnion fuel rest <;> rfl
  · rename_i rest
    simp only [readBracketed, readDescent, readWhole]
    rcases readPath fuel rest with problem | _ | found <;> rfl
  · rename_i hbracket hdescent
    simp only [bind, Except.bind, readBracketed_none hbracket, readDescent_none hdescent]

theorem attribute?_none (hfuel : 0 < fuel) (h : readPath fuel front = .ok none) :
    attribute? front = none := by
  obtain ⟨fuel, rfl⟩ := Nat.exists_eq_add_one.2 hfuel
  rw [PathExpr.readPath.eq_def] at h
  cases hname : attribute? front with
  | none => rfl
  | some found =>
    simp only [hname] at h
    rw [bind_eq_ok] at h
    obtain ⟨read, -, he⟩ := h
    cases he

end

/-! ## What is taken -/

/-- What is left behind a match, which took one token at least. -/
structure Leaves (front rest : List Token) : Prop where
  suffix : rest <:+ front
  shorter : rest.length < front.length

/-- A rule takes a token at least when it matches. -/
def Takes {α : Type} (read : List Token → Except PathProblem (Found α)) : Prop :=
  ∀ ⦃front rest x⦄, read front = .ok (some (x, rest)) → Leaves front rest

theorem Leaves.of_cons (token : Token) (rest : List Token) : Leaves (token :: rest) rest :=
  ⟨List.suffix_cons token rest, Nat.lt_succ_self _⟩

theorem Leaves.of_append {taken rest : List Token} (h : 0 < taken.length) :
    Leaves (taken ++ rest) rest :=
  ⟨List.suffix_append taken rest, by rw [List.length_append]; omega⟩

theorem Leaves.cons {front rest : List Token} (h : Leaves front rest) (token : Token) :
    Leaves (token :: front) rest :=
  ⟨h.suffix.trans (List.suffix_cons token front), Nat.lt_succ_of_lt h.shorter⟩

theorem takes_accepted {α : Type} (accept : Token → Option α) :
    Takes fun front => .ok (accepted accept front) := by
  intro front rest x h
  cases front with
  | nil => cases h
  | cons token tail =>
    simp only [accepted] at h
    cases haccept : accept token with
    | none => simp only [haccept] at h; cases h
    | some y =>
      simp only [haccept] at h
      cases h
      exact .of_cons token _

theorem takes_attribute : Takes fun front => .ok (attribute? front) := by
  simpa only [accepted_attributeOf] using takes_accepted attributeOf

theorem takes_alias : Takes fun front => .ok (alias? front) := by
  simpa only [accepted_aliasOf] using takes_accepted aliasOf

theorem takes_literal : Takes fun front => .ok (literal? front) := by
  simpa only [accepted_literalOf] using takes_accepted literalOf

theorem takes_slice : Takes readSlice := by
  intro front rest x h
  obtain ⟨taken, rfl, hwrites⟩ := PathExpr.readSlice_sound h
  exact .of_append (WritesTerm.slice hwrites).length_pos

theorem takes_constraint : Takes readConstraint := by
  intro front rest x h
  obtain ⟨taken, rfl, hwrites⟩ := PathExpr.readConstraint_sound h
  exact .of_append (WritesTerm.constraint hwrites : WritesTerm .optional taken x).length_pos

theorem takes_reference : Takes readReference := by
  intro front rest x h
  unfold readReference at h
  split at h
  · rename_i found hname
    cases h
    exact takes_attribute (congrArg Except.ok hname)
  · exact takes_slice h

theorem takes_whole (fuel : Nat) : Takes (readWhole fuel) := by
  intro front rest x h
  unfold readWhole at h
  rw [bind_eq_ok] at h
  obtain ⟨found, hpath, he⟩ := h
  split at he
  · cases he
    obtain ⟨taken, rfl, hwrites⟩ := PathExpr.path_sound fuel hpath
    exact .of_append hwrites.length_pos
  · cases he

theorem takes_bracketed (fuel : Nat) : Takes (readBracketed fuel) := by
  intro front rest x h
  unfold readBracketed at h
  split at h
  · rw [bind_eq_ok] at h
    obtain ⟨⟨terms, behind'⟩, hunion, he⟩ := h
    cases he
    obtain ⟨within, rfl, -⟩ := PathExpr.union_sound fuel hunion
    have htail : Leaves (within ++ .bracket .closing :: rest) rest := by
      rw [List.append_cons]
      exact .of_append (by rw [List.length_append]; exact Nat.succ_pos _)
    exact htail.cons _
  · cases h

theorem takes_descent (fuel : Nat) : Takes (readDescent fuel) := by
  intro front rest x h
  unfold readDescent at h
  split at h
  · rw [bind_eq_ok] at h
    obtain ⟨found, hpath, he⟩ := h
    split at he
    · cases he
      exact (takes_whole fuel hpath).cons _
    · cases he
  · cases h

theorem takes_head (fuel : Nat) : Takes (readHead fuel) := by
  intro front rest x h
  unfold readHead at h
  split at h
  · rename_i found hname
    cases h
    exact takes_attribute (congrArg Except.ok hname)
  · rw [bind_eq_ok] at h
    obtain ⟨found, hunion, he⟩ := h
    split at he
    · cases he
      exact takes_bracketed fuel hunion
    · exact takes_descent fuel he

theorem takes_term (fuel : Nat) : Takes (readTerm fuel) := by
  intro front rest x h
  obtain ⟨taken, rfl, hwrites⟩ := PathExpr.term_sound fuel h
  exact .of_append hwrites.length_pos

/-! ## The walk follows the reader

By induction on the fuel of the reader: what it comes to with one more, the walk comes to as well.
-/

section
variable (tokens : List Token) (i : Nat)

/-- What a loop comes to, behind what it has found before. -/
def gathered (found : List PathExpr) (result : Except PathProblem (List PathExpr × List Token)) :
    Except PathProblem (List PathExpr × Nat) :=
  result.map fun (more, rest) => (found ++ more, behind tokens i rest)

/-- With this much fuel the reader comes to what the walk comes to in so many steps, wherever both
suffice: four for each token that is left, and a little more for the rules that call others before
they take a token. -/
structure Follows (fuel : Nat) : Prop where
  path : ∀ front steps, front <:+ tokens.drop i → 4 * front.length + 1 ≤ fuel →
    4 * front.length + 3 ≤ steps → (pathAt tokens steps).outcome (behind tokens i front) =
      some (located tokens i front (readWhole fuel front))
  tail : ∀ front found steps, front <:+ tokens.drop i → 4 * front.length + 1 ≤ fuel →
    4 * front.length + 2 ≤ steps → (segmentsAt tokens steps found).outcome (behind tokens i front) =
      some (gathered tokens i found (readTail fuel front))
  union : ∀ front steps, front <:+ tokens.drop i → 4 * front.length ≤ fuel + 1 →
    4 * front.length + 1 ≤ steps → (unionAt tokens steps).outcome (behind tokens i front) =
      some (located tokens i front (readBracketed fuel front))
  terms : ∀ front found steps, front <:+ tokens.drop i → 4 * front.length + 1 ≤ fuel →
    4 * front.length + 1 ≤ steps → (termsAt tokens steps found).outcome (behind tokens i front) =
      some (gathered tokens i found (readTerms fuel front))
  term : ∀ front steps, front <:+ tokens.drop i → 4 * front.length + 2 ≤ fuel →
    4 * front.length + 4 ≤ steps → (termAt tokens steps).outcome (behind tokens i front) =
      some (located tokens i front (readTerm fuel front))

variable {tokens i} {fuel steps : Nat} {front : List Token}

theorem gathered_nil (found : List PathExpr) (front : List Token) :
    gathered tokens i found (.ok ([], front)) = .ok (found, behind tokens i front) := by
  simp only [gathered, Except.map, List.append_nil]

theorem gathered_cons (found : List PathExpr) (segment : PathExpr)
    (result : Except PathProblem (List PathExpr × List Token)) :
    gathered tokens i (found ++ [segment]) result =
      gathered tokens i found (do
        let (more, rest) ← result
        .ok (segment :: more, rest)) := by
  cases result with
  | error problem => rfl
  | ok read => simp only [gathered, Except.map, bind, Except.bind, ← List.append_cons]

theorem outcome_unionAt_ne (h : front <:+ tokens.drop i)
    (hne : ∀ rest, front ≠ .bracket .opening :: rest) :
    (unionAt tokens (steps + 1)).outcome (behind tokens i front) =
      some (located tokens i front (.ok none)) := by
  rw [unionAt, outcome_bind_ok (outcome_signAt_ne h hne)]
  rfl

theorem Follows.descent (hfollows : Follows tokens i fuel) (h : front <:+ tokens.drop i)
    (hfuel : 4 * front.length ≤ fuel + 3) (hsteps : 4 * front.length ≤ steps) :
    (descentAt tokens (steps + 1)).outcome (behind tokens i front) =
      some (located tokens i front (readDescent fuel front)) := by
  rw [descentAt]
  by_cases hsign : ∃ rest, front = .joint .descent :: rest
  · obtain ⟨rest, rfl⟩ := hsign
    rw [List.length_cons] at hfuel hsteps
    have hpath := hfollows.path rest steps (suffix_of_cons h) (by omega) (by omega)
    rw [outcome_bind_ok (outcome_signAt_cons h), if_pos rfl, outcome_bind_located hpath,
      readDescent]
    rcases readWhole fuel rest with problem | _ | ⟨path, rest'⟩ <;> rfl
  · have hne := not_exists.mp hsign
    rw [outcome_bind_ok (outcome_signAt_ne h hne), readDescent_none hne]
    rfl

theorem Follows.head (hfollows : Follows tokens i fuel) (h : front <:+ tokens.drop i)
    (hfuel : 4 * front.length ≤ fuel) (hsteps : 4 * front.length + 1 ≤ steps) :
    (headAt tokens (steps + 1)).outcome (behind tokens i front) =
      some (located tokens i front (readHead fuel front)) := by
  obtain ⟨steps, rfl⟩ := Nat.exists_eq_add_one.2 (show 0 < steps by omega)
  rw [headAt, outcome_bind_located (outcome_attributeAt h), readHead]
  cases attribute? front with
  | some found => rfl
  | none =>
    have hunion := hfollows.union front (steps + 1) h (by omega) (by omega)
    rw [resumeAt, outcome_bind_located hunion]
    rcases readBracketed fuel front with problem | _ | ⟨union, rest⟩
    · rfl
    · exact hfollows.descent h (by omega) (by omega)
    · rfl

theorem Follows.path_succ (hfollows : Follows tokens i fuel) (h : front <:+ tokens.drop i)
    (hfuel : 4 * front.length ≤ fuel) (hsteps : 4 * front.length + 2 ≤ steps) :
    (pathAt tokens (steps + 1)).outcome (behind tokens i front) =
      some (located tokens i front (readWhole (fuel + 1) front)) := by
  obtain ⟨steps, rfl⟩ := Nat.exists_eq_add_one.2 (show 0 < steps by omega)
  have hhead := hfollows.head h hfuel (show 4 * front.length + 1 ≤ steps by omega)
  rw [pathAt, outcome_bind_located hhead, readWhole, readPath_succ hfuel]
  rcases hread : readHead fuel front with problem | _ | ⟨head, rest⟩
  · rfl
  · rfl
  · have hleaves := takes_head fuel hread
    have hshorter := hleaves.shorter
    have htail := hfollows.tail rest [head] (steps + 1) (hleaves.suffix.trans h) (by omega)
      (by omega)
    rw [resumeAt, outcome_bind, htail]
    cases hrest : readTail fuel rest <;> simp only [bind, Except.bind, hrest] <;> rfl

theorem Follows.tail_succ (hfollows : Follows tokens i fuel) (found : List PathExpr)
    (h : front <:+ tokens.drop i) (hfuel : 4 * front.length ≤ fuel)
    (hsteps : 4 * front.length + 1 ≤ steps) :
    (segmentsAt tokens (steps + 1) found).outcome (behind tokens i front) =
      some (gathered tokens i found (readTail (fuel + 1) front)) := by
  obtain ⟨steps, rfl⟩ := Nat.exists_eq_add_one.2 (show 0 < steps by omega)
  rw [segmentsAt, outcome_bind_ok (outcome_get _)]
  rcases front with _ | ⟨token, behind'⟩
  · rw [if_pos (behind_nil tokens i), PathExpr.readTail.eq_def]
    exact congrArg some (gathered_nil found []).symm
  · rw [if_neg (Nat.not_le.mpr (behind_lt h))]
    by_cases hdot : ∃ rest, token :: behind' = .joint .dot :: rest
    · obtain ⟨rest, heq⟩ := hdot
      cases heq
      have hrest := suffix_of_cons h
      rw [List.length_cons] at hfuel hsteps
      rw [outcome_bind_ok (outcome_signAt_cons h), if_pos rfl,
        outcome_bind_located (outcome_attributeAt hrest), PathExpr.readTail.eq_def]
      simp only
      rcases hname : attribute? behind' with _ | ⟨name, rest⟩
      · rfl
      · have hleaves := takes_attribute (congrArg Except.ok hname)
        have hshorter := hleaves.shorter
        rw [resumeAt, hfollows.tail rest _ _ (hleaves.suffix.trans hrest) (by omega) (by omega),
          gathered_cons]
    · have hne := not_exists.mp hdot
      have hunion := hfollows.union _ (steps + 1) h (by omega) (by omega)
      have hdescent := hfollows.descent h (by omega) (show _ ≤ steps by omega)
      rw [outcome_bind_ok (outcome_signAt_ne h hne), if_neg Bool.false_ne_true,
        outcome_bind_located hunion, readTail_succ hne]
      rcases hread : readBracketed fuel (token :: behind') with problem | _ | ⟨union, rest⟩
      · rfl
      · rw [resumeAt, outcome_bind_located hdescent]
        rcases readDescent fuel (token :: behind') with problem | _ | ⟨descent, rest⟩
        · rfl
        · exact congrArg some (gathered_nil found _).symm
        · rfl
      · have hleaves := takes_bracketed fuel hread
        have hshorter := hleaves.shorter
        rw [resumeAt, hfollows.tail rest _ _ (hleaves.suffix.trans h) (by omega) (by omega),
          gathered_cons]
        rfl

theorem Follows.union_succ (hfollows : Follows tokens i fuel) (h : front <:+ tokens.drop i)
    (hfuel : 4 * front.length ≤ fuel + 2) (hsteps : 4 * front.length ≤ steps) :
    (unionAt tokens (steps + 1)).outcome (behind tokens i front) =
      some (located tokens i front (readBracketed (fuel + 1) front)) := by
  by_cases hopening : ∃ rest, front = .bracket .opening :: rest
  · obtain ⟨rest, rfl⟩ := hopening
    have hrest := suffix_of_cons h
    rw [List.length_cons] at hfuel hsteps
    have hterm := hfollows.term rest steps hrest (by omega) (by omega)
    rw [unionAt, outcome_bind_ok (outcome_signAt_cons h), if_pos rfl, outcome_bind_located hterm,
      readBracketed, PathExpr.readUnion]
    rcases hfirst : readTerm fuel rest with problem | _ | ⟨first, rest'⟩
    · rfl
    · rfl
    · have hleaves := takes_term fuel hfirst
      have hshorter := hleaves.shorter
      have hterms := hfollows.terms rest' [first] steps (hleaves.suffix.trans hrest) (by omega)
        (by omega)
      rw [resumeAt, outcome_bind, hterms]
      cases hmore : readTerms fuel rest' <;> simp only [bind, Except.bind, hmore] <;> rfl
  · have hne := not_exists.mp hopening
    rw [outcome_unionAt_ne h hne, readBracketed_none hne]

theorem Follows.terms_succ (hfollows : Follows tokens i fuel) (found : List PathExpr)
    (h : front <:+ tokens.drop i) (hfuel : 4 * front.length ≤ fuel)
    (hsteps : 4 * front.length ≤ steps) :
    (termsAt tokens (steps + 1) found).outcome (behind tokens i front) =
      some (gathered tokens i found (readTerms (fuel + 1) front)) := by
  rw [termsAt]
  by_cases hclosing : ∃ rest, front = .bracket .closing :: rest
  · obtain ⟨rest, rfl⟩ := hclosing
    rw [outcome_bind_ok (outcome_signAt_cons h), PathExpr.readTerms, gathered_nil]
    rfl
  · have hne := not_exists.mp hclosing
    rw [outcome_bind_ok (outcome_signAt_ne h hne), if_neg Bool.false_ne_true]
    by_cases hcomma : ∃ rest, front = .joint .comma :: rest
    · obtain ⟨rest, rfl⟩ := hcomma
      have hrest := suffix_of_cons h
      rw [List.length_cons] at hfuel hsteps
      have hterm := hfollows.term rest steps hrest (by omega) (by omega)
      rw [outcome_bind_ok (outcome_signAt_cons h), if_pos rfl, outcome_bind_located hterm,
        PathExpr.readTerms]
      rcases hread : readTerm fuel rest with problem | _ | ⟨term, rest'⟩
      · rfl
      · rfl
      · have hleaves := takes_term fuel hread
        have hshorter := hleaves.shorter
        rw [resumeAt, hfollows.terms rest' _ _ (hleaves.suffix.trans hrest) (by omega) (by omega),
          gathered_cons]
        rfl
    · have hne' := not_exists.mp hcomma
      rw [outcome_bind_ok (outcome_signAt_ne h hne'), PathExpr.readTerms.eq_def]
      simp only
      rfl

theorem Follows.term_succ (hfollows : Follows tokens i fuel) (h : front <:+ tokens.drop i)
    (hfuel : 4 * front.length + 1 ≤ fuel) (hsteps : 4 * front.length + 3 ≤ steps) :
    (termAt tokens (steps + 1)).outcome (behind tokens i front) =
      some (located tokens i front (readTerm (fuel + 1) front)) := by
  rw [termAt, outcome_bind_located (outcome_constraintAt h), PathExpr.readTerm]
  rcases readConstraint front with problem | _ | ⟨constraint, rest⟩
  · rfl
  · rw [resumeAt, outcome_bind_located (hfollows.path front steps h hfuel hsteps), readWhole]
    rcases hpath : readPath fuel front with problem | _ | ⟨segments, rest⟩
    · rfl
    · -- An attribute would have been a path.
      have hreference := outcome_referenceAt h
      rw [readReference, attribute?_none (by omega) hpath] at hreference
      exact hreference
    · rfl
  · rfl

theorem Follows.succ (h : Follows tokens i fuel) : Follows tokens i (fuel + 1) where
  path front steps hfront hfuel hsteps := by
    obtain ⟨steps, rfl⟩ := Nat.exists_eq_add_one.2 (show 0 < steps by omega)
    exact h.path_succ hfront (by omega) (by omega)
  tail front found steps hfront hfuel hsteps := by
    obtain ⟨steps, rfl⟩ := Nat.exists_eq_add_one.2 (show 0 < steps by omega)
    exact h.tail_succ found hfront (by omega) (by omega)
  union front steps hfront hfuel hsteps := by
    obtain ⟨steps, rfl⟩ := Nat.exists_eq_add_one.2 (show 0 < steps by omega)
    exact h.union_succ hfront (by omega) (by omega)
  terms front found steps hfront hfuel hsteps := by
    obtain ⟨steps, rfl⟩ := Nat.exists_eq_add_one.2 (show 0 < steps by omega)
    exact h.terms_succ found hfront (by omega) (by omega)
  term front steps hfront hfuel hsteps := by
    obtain ⟨steps, rfl⟩ := Nat.exists_eq_add_one.2 (show 0 < steps by omega)
    exact h.term_succ hfront (by omega) (by omega)

/-- Without fuel there is only a union to read, which is not there without tokens. -/
theorem follows_zero : Follows tokens i 0 where
  path _ _ _ hfuel := by omega
  tail _ _ _ _ hfuel := by omega
  union front steps h hfuel hsteps := by
    obtain ⟨steps, rfl⟩ := Nat.exists_eq_add_one.2 (show 0 < steps by omega)
    obtain rfl := List.eq_nil_of_length_eq_zero (show front.length = 0 by omega)
    exact outcome_unionAt_ne h nofun
  terms _ _ _ _ hfuel := by omega
  term _ _ _ hfuel := by omega

/-- **The walk follows the reader**, and ends where the reader does. -/
theorem follows : ∀ fuel, Follows tokens i fuel
  | 0 => follows_zero
  | fuel + 1 => (follows fuel).succ

theorem comesTo_pathAt (h : front <:+ tokens.drop i) :
    ComesTo (pathAt tokens) (behind tokens i front)
      (located tokens i front (readWhole (fuelFor front) front)) :=
  ⟨_, (follows (fuelFor front)).path front _ h (by unfold fuelFor; omega) (Nat.le_refl _)⟩

theorem comesTo_segmentsAt (found : List PathExpr) (h : front <:+ tokens.drop i) :
    ComesTo (segmentsAt tokens · found) (behind tokens i front)
      (gathered tokens i found (readTail (fuelFor front) front)) :=
  ⟨_, (follows (fuelFor front)).tail front found _ h (by unfold fuelFor; omega) (Nat.le_refl _)⟩

theorem comesTo_unionAt (h : front <:+ tokens.drop i) :
    ComesTo (unionAt tokens) (behind tokens i front)
      (located tokens i front (readBracketed (fuelFor front) front)) :=
  ⟨_, (follows (fuelFor front)).union front _ h (by unfold fuelFor; omega) (Nat.le_refl _)⟩

theorem comesTo_termsAt (found : List PathExpr) (h : front <:+ tokens.drop i) :
    ComesTo (termsAt tokens · found) (behind tokens i front)
      (gathered tokens i found (readTerms (fuelFor front) front)) :=
  ⟨_, (follows (fuelFor front)).terms front found _ h (by unfold fuelFor; omega) (Nat.le_refl _)⟩

theorem comesTo_termAt (h : front <:+ tokens.drop i) :
    ComesTo (termAt tokens) (behind tokens i front)
      (located tokens i front (readTerm (fuelFor front) front)) :=
  ⟨_, (follows (fuelFor front)).term front _ h (by unfold fuelFor; omega) (Nat.le_refl _)⟩

theorem comesTo_descentAt (h : front <:+ tokens.drop i) :
    ComesTo (descentAt tokens) (behind tokens i front)
      (located tokens i front (readDescent (fuelFor front) front)) :=
  ⟨_, (follows (fuelFor front)).descent h (by unfold fuelFor; omega) (Nat.le_refl _)⟩

theorem comesTo_wholePath (tokens : List Token) :
    ComesTo (wholePath tokens) 0 ((ofTokens tokens).map (·, tokens.length)) := by
  have hstart : behind tokens 0 tokens = 0 := behind_self tokens 0
  have hall : tokens <:+ tokens.drop 0 := List.suffix_rfl
  obtain ⟨steps, hpath⟩ := comesTo_pathAt hall
  rw [hstart] at hpath
  refine ⟨steps, ?_⟩
  rw [wholePath, outcome_bind_located hpath, ofTokens, readWhole]
  rcases hread : readPath (fuelFor tokens) tokens with problem | _ | ⟨segments, rest⟩
  · rfl
  · rfl
  · have hwhole : readWhole (fuelFor tokens) tokens = .ok (some (.path segments, rest)) := by
      rw [readWhole, hread]
      rfl
    have hsuffix : rest <:+ tokens.drop 0 := (takes_whole _ hwhole).suffix
    have hend : behind tokens 0 [] = tokens.length := by
      rw [behind, List.drop_zero, List.length_nil, Nat.sub_zero, Nat.zero_add]
    change ((get : Walk Nat) >>= _).outcome (behind tokens 0 rest) = _
    rw [outcome_bind_ok (outcome_get _), getElem?_behind hsuffix]
    cases rest with
    | nil =>
      rw [hend]
      rfl
    | cons token rest => rfl

end

/-! ## Progress -/

section
variable {α : Type} (tokens : List Token)

/-- The progress of a rule: wherever it starts, it ends, and comes to what the reader reads there
and to nothing else; it leaves the position where it was when it does not match; and a match moves
the position forward, not past the end. -/
structure Steady (rule : Nat → Walk (Option α))
    (read : List Token → Except PathProblem (Found α)) : Prop where
  ends : ∀ i, ∃ reached, ComesTo rule i reached
  reads : ∀ i reached, ComesTo rule i reached →
    reached = located tokens i (tokens.drop i) (read (tokens.drop i))
  stays : ∀ i j, ComesTo rule i (.ok (none, j)) → j = i
  advances : ∀ i j x, ComesTo rule i (.ok (some x, j)) → i < j ∧ j ≤ tokens.length

/-- The progress of a loop: wherever it starts and whatever it has found before, it ends, and comes
to what the reader reads there and to nothing else; and the position does not go back, or past the
end. -/
structure Carries (loop : Nat → List PathExpr → Walk (List PathExpr))
    (read : List Token → Except PathProblem (List PathExpr × List Token)) : Prop where
  ends : ∀ found i, ∃ reached, ComesTo (loop · found) i reached
  reads : ∀ found i reached, ComesTo (loop · found) i reached →
    reached = gathered tokens i found (read (tokens.drop i))
  advances : ∀ found i j all, ComesTo (loop · found) i (.ok (all, j)) →
    i ≤ j ∧ (i ≤ tokens.length → j ≤ tokens.length)

variable {tokens}

theorem Leaves.advances {i : Nat} {rest : List Token} (h : Leaves (tokens.drop i) rest) :
    i < behind tokens i rest ∧ behind tokens i rest ≤ tokens.length := by
  have hshorter := h.shorter
  rw [List.length_drop] at hshorter
  rw [behind, List.length_drop]
  omega

theorem Steady.of_comesTo {rule : Nat → Walk (Option α)}
    {read : List Token → Except PathProblem (Found α)} (htakes : Takes read)
    (hgrows : ∀ fuel, Within (rule fuel) (rule (fuel + 1)))
    (hcomes : ∀ i front, front <:+ tokens.drop i →
      ComesTo rule (behind tokens i front) (located tokens i front (read front))) :
    Steady tokens rule read := by
  have hat : ∀ i, ComesTo rule i (located tokens i (tokens.drop i) (read (tokens.drop i))) := by
    intro i
    have hdrop := hcomes i (tokens.drop i) List.suffix_rfl
    rwa [behind_self] at hdrop
  refine ⟨fun i => ⟨_, hat i⟩, fun i _ h => h.unique hgrows (hat i), ?_, ?_⟩
  · intro i j h
    have hread := h.unique hgrows (hat i)
    rcases hfront : read (tokens.drop i) with problem | _ | ⟨x, rest⟩ <;> rw [hfront] at hread <;>
      cases hread
    exact behind_self tokens i
  · intro i j x h
    have hread := h.unique hgrows (hat i)
    rcases hfront : read (tokens.drop i) with problem | _ | ⟨x, rest⟩ <;> rw [hfront] at hread <;>
      cases hread
    exact (htakes hfront).advances

theorem Steady.of_outcome {rule : Walk (Option α)}
    {read : List Token → Except PathProblem (Found α)} (htakes : Takes read)
    (houtcome : ∀ i front, front <:+ tokens.drop i →
      rule.outcome (behind tokens i front) = some (located tokens i front (read front))) :
    Steady tokens (fun _ => rule) read :=
  .of_comesTo htakes (fun _ => .refl rule) fun i front h => ⟨0, houtcome i front h⟩

theorem Carries.of_comesTo {loop : Nat → List PathExpr → Walk (List PathExpr)}
    {read : List Token → Except PathProblem (List PathExpr × List Token)}
    (hgrows : ∀ fuel found, Within (loop fuel found) (loop (fuel + 1) found))
    (hcomes : ∀ i front found, front <:+ tokens.drop i →
      ComesTo (loop · found) (behind tokens i front) (gathered tokens i found (read front))) :
    Carries tokens loop read := by
  have hat : ∀ found i, ComesTo (loop · found) i
      (gathered tokens i found (read (tokens.drop i))) := by
    intro found i
    have hdrop := hcomes i (tokens.drop i) found List.suffix_rfl
    rwa [behind_self] at hdrop
  refine ⟨fun found i => ⟨_, hat found i⟩,
    fun found i _ h => h.unique (hgrows · found) (hat found i), ?_⟩
  intro found i j all h
  have hread := h.unique (hgrows · found) (hat found i)
  rcases hfront : read (tokens.drop i) with problem | ⟨more, rest⟩ <;> rw [hfront] at hread <;>
    cases hread
  rw [behind, List.length_drop]
  omega

/-- **A walk makes progress, and ends.**  Over all lists of tokens and from every position, each
rule that comes back without a match and without a problem leaves the position where it was, and
each that matches moves it forward, not past the end.  All rules end, and so do the loops over the
segments of a path and over the terms of a union.  The walk over all tokens comes to what is read of
them. -/
theorem rules_steady (tokens : List Token) :
    (∀ {α : Type} (accept : Token → Option α),
        Steady tokens (fun _ => takeIf tokens accept) fun front => .ok (accepted accept front)) ∧
      Steady tokens (fun _ => attributeAt tokens) (fun front => .ok (attribute? front)) ∧
      Steady tokens (fun _ => aliasAt tokens) (fun front => .ok (alias? front)) ∧
      Steady tokens (fun _ => numberAt tokens) (fun front => .ok (accepted numberOf front)) ∧
      Steady tokens (fun _ => literalAt tokens) (fun front => .ok (literal? front)) ∧
      Steady tokens (fun _ => comparatorAt tokens)
        (fun front => .ok (accepted comparatorOf front)) ∧
      Steady tokens (fun _ => sliceAt tokens) readSlice ∧
      Steady tokens (fun _ => referenceAt tokens) readReference ∧
      Steady tokens (fun _ => constraintAt tokens) readConstraint ∧
      Steady tokens (termAt tokens) (fun front => readTerm (fuelFor front) front) ∧
      Steady tokens (unionAt tokens) (fun front => readBracketed (fuelFor front) front) ∧
      Steady tokens (descentAt tokens) (fun front => readDescent (fuelFor front) front) ∧
      Steady tokens (pathAt tokens) (fun front => readWhole (fuelFor front) front) ∧
      Carries tokens (segmentsAt tokens) (fun front => readTail (fuelFor front) front) ∧
      Carries tokens (termsAt tokens) (fun front => readTerms (fuelFor front) front) ∧
      ∀ reached, ComesTo (wholePath tokens) 0 reached ↔
        reached = (ofTokens tokens).map (·, tokens.length) := by
  refine ⟨fun accept => .of_outcome (takes_accepted accept) fun _ _ => outcome_takeIf accept,
    .of_outcome takes_attribute fun _ _ => outcome_attributeAt,
    .of_outcome takes_alias fun _ _ => outcome_aliasAt,
    .of_outcome (takes_accepted numberOf) fun _ _ => outcome_takeIf numberOf,
    .of_outcome takes_literal fun _ _ => outcome_literalAt,
    .of_outcome (takes_accepted comparatorOf) fun _ _ => outcome_takeIf comparatorOf,
    .of_outcome takes_slice fun _ _ => outcome_sliceAt,
    .of_outcome takes_reference fun _ _ => outcome_referenceAt,
    .of_outcome takes_constraint fun _ _ => outcome_constraintAt, ?_, ?_, ?_, ?_,
    .of_comesTo (fun fuel => (grows fuel).segments) fun _ _ found => comesTo_segmentsAt found,
    .of_comesTo (fun fuel => (grows fuel).terms) fun _ _ found => comesTo_termsAt found, ?_⟩
  · exact .of_comesTo (fun front _ _ hread => takes_term (fuelFor front) hread)
      (fun fuel => (grows fuel).term) fun _ _ => comesTo_termAt
  · exact .of_comesTo (fun front _ _ hread => takes_bracketed (fuelFor front) hread)
      (fun fuel => (grows fuel).union) fun _ _ => comesTo_unionAt
  · exact .of_comesTo (fun front _ _ hread => takes_descent (fuelFor front) hread)
      (fun fuel => (grows fuel).descent) fun _ _ => comesTo_descentAt
  · exact .of_comesTo (fun front _ _ hread => takes_whole (fuelFor front) hread)
      (fun fuel => (grows fuel).path) fun _ _ => comesTo_pathAt
  · intro reached
    constructor
    · intro h
      exact h.unique within_wholePath (comesTo_wholePath tokens)
    · rintro rfl
      exact comesTo_wholePath tokens

end

end Walk

end DocumentStore
