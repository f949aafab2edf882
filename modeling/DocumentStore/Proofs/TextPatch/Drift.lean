import DocumentStore.Proofs.TextPatch.Nearest

/-!
# How far a drift is carried

A hunk that is found elsewhere than expected shifts what the next hunk expects by as much.  That
next hunk, found where it is then expected, leaves no drift behind: the third hunk is looked for at
its own place again, as if there had been no drift.  So a shift of the whole text is followed by
every second hunk only, and the others must find their way by themselves.

* `ReplacesShifted` — sources replaced by targets, each so many characters behind its place.
* `Shifts` — hunks that go so many characters behind their places, every second one by itself.

Principal results: `applyHunksFrom_standing` — a hunk that stands where the drift leads leaves no
drift.  `drift_carried_once` — a drift is carried to the next hunk and no further.
-/

set_option autoImplicit false

namespace DocumentStore

/-- Each hunk in turn finds its source `shift` characters behind its place in the text that the
hunks before it left, and puts its target there. -/
inductive ReplacesShifted (shift : Nat) : List Char → List Hunk → List Char → Prop
  | done (text : List Char) : ReplacesShifted shift text [] text
  | next {text out : List Char} {hunk : Hunk} {rest : List Hunk} (before behind : List Char)
    (stands : text = before ++ hunk.source ++ behind)
    (place : before.length = hunk.start2 + shift)
    (others : ReplacesShifted shift (before ++ hunk.target ++ behind) rest out) :
    ReplacesShifted shift text (hunk :: rest) out

/-- Each hunk in turn goes `shift` characters behind its place.  Without a drift to follow it is
found there from its own place, and the next hunk has the drift to follow; with it, its source need
only stand there, and the next hunk has none.  The truth values tell whether there is a drift to
follow before the first hunk and behind the last. -/
inductive Shifts (shift : Nat) : Bool → List Char → List Hunk → List Char → Bool → Prop
  | done (carried : Bool) (text : List Char) : Shifts shift carried text [] text carried
  | found {text out : List Char} {hunk : Hunk} {rest : List Hunk} {carried : Bool}
    (located : locate text hunk.source hunk.start2 = some (hunk.start2 + shift))
    (others : Shifts shift true
      (splice text (hunk.start2 + shift) hunk.source.length hunk.target) rest out carried) :
    Shifts shift false text (hunk :: rest) out carried
  | followed {text out : List Char} {hunk : Hunk} {rest : List Hunk} {carried : Bool}
    (before behind : List Char) (stands : text = before ++ hunk.source ++ behind)
    (place : before.length = hunk.start2 + shift)
    (others : Shifts shift false (before ++ hunk.target ++ behind) rest out carried) :
    Shifts shift true text (hunk :: rest) out carried

section
variable {hunk : Hunk} {shift : Nat}

theorem expected_shifted (fits : ((hunk.start2 + shift : Nat) : Int) ≤ maxSigned) :
    FitsSigned (wrapSigned hunk.start2 + shift) ∧ hunk.expected shift = hunk.start2 + shift := by
  have start : wrapSigned (hunk.start2 : Int) = hunk.start2 := wrapSigned_place (by omega)
  unfold Hunk.expected FitsSigned minSigned
  rw [start]
  omega

/-- **A hunk that stands where the drift leads** goes there and leaves no drift. -/
theorem applyHunksFrom_standing {before behind : List Char}
    (fits : ((hunk.start2 + shift : Nat) : Int) ≤ maxSigned)
    (place : before.length = hunk.start2 + shift) (rest : List Hunk) :
    applyHunksFrom shift (before ++ hunk.source ++ behind) (hunk :: rest) =
      Prod.map id (List.cons true) (applyHunksFrom 0 (before ++ hunk.target ++ behind) rest) := by
  obtain ⟨sum, expected⟩ := expected_shifted fits
  have located := locate_standing before hunk.source behind
  rw [place, ← expected] at located
  have nodrift : ((hunk.expected shift : Nat) : Int) - hunk.expected shift = 0 := Int.sub_self _
  rw [applyHunksFrom_found sum (nodrift ▸ fitsSigned_zero) located, nodrift, expected, ← place,
    splice_between]

theorem applyHunksFrom_shifted {text : List Char}
    (fits : ((hunk.start2 + shift : Nat) : Int) ≤ maxSigned)
    (located : locate text hunk.source hunk.start2 = some (hunk.start2 + shift))
    (rest : List Hunk) :
    applyHunksFrom 0 text (hunk :: rest) =
      Prod.map id (List.cons true) (applyHunksFrom shift
        (splice text (hunk.start2 + shift) hunk.source.length hunk.target) rest) := by
  have sum : FitsSigned (wrapSigned hunk.start2 + 0) := (@expected_shifted hunk 0 (by omega)).1
  have expected : hunk.expected 0 = hunk.start2 := (@expected_shifted hunk 0 (by omega)).2
  have found : locate text hunk.source (hunk.expected 0) = some (hunk.start2 + shift) := by
    rw [expected, located]
  have drift : ((hunk.start2 + shift : Nat) : Int) - hunk.expected 0 = shift := by omega
  have shiftFits : FitsSigned (((hunk.start2 + shift : Nat) : Int) - hunk.expected 0) := by
    unfold FitsSigned minSigned
    omega
  rw [applyHunksFrom_found sum shiftFits found, drift]

/-- The hunks that shift a text are all applied, with the drift that is left to those behind. -/
theorem Shifts.applyHunksFrom_eq {text out : List Char} {hunks : List Hunk} {before behind : Bool}
    (shifts : Shifts shift before text hunks out behind)
    (places : ∀ hunk ∈ hunks, ((hunk.start2 + shift : Nat) : Int) ≤ maxSigned)
    (rest : List Hunk) :
    applyHunksFrom (if before then shift else 0) text (hunks ++ rest) =
      Prod.map id (List.replicate hunks.length true ++ ·)
        (applyHunksFrom (if behind then shift else 0) out rest) := by
  induction shifts with
  | done carried text => rfl
  | found located others ih =>
    rw [List.forall_mem_cons] at places
    have others := ih places.2
    rw [List.cons_append, if_neg Bool.false_ne_true, applyHunksFrom_shifted places.1 located]
    rw [if_pos rfl] at others
    rw [others]
    rfl
  | followed front back stands place others ih =>
    rw [List.forall_mem_cons] at places
    have others := ih places.2
    rw [List.cons_append, if_pos rfl, stands, applyHunksFrom_standing places.1 place]
    rw [if_neg Bool.false_ne_true] at others
    rw [others]
    rfl

end

/-- **A drift is carried to the next hunk and no further.**  Given hunks that all go so many
characters behind their places, where every second one, from the first on, is found there by itself:
they are applied, and any hunks behind them go on with the drift when the last found its way by
itself, and with none when it followed a drift.  A text has fewer characters than there are signed
numbers, so a place in it is one. -/
theorem drift_carried_once {shift : Nat} {text out : List Char} {hunks : List Hunk}
    {carried : Bool} (shifts : Shifts shift false text hunks out carried)
    (places : ∀ hunk ∈ hunks, ((hunk.start2 + shift : Nat) : Int) ≤ maxSigned)
    (rest : List Hunk) :
    applyHunks (hunks ++ rest) text =
      Prod.map id (List.replicate hunks.length true ++ ·)
        (applyHunksFrom (if carried then shift else 0) out rest) :=
  shifts.applyHunksFrom_eq places rest

/-- Three hunks for a text without the first character of that in which they are looked for. -/
def laggingHunks : List Hunk :=
  [⟨[(.remove, ['a']), (.add, ['A'])], 0, 1, 0, 1⟩, ⟨[(.remove, ['b']), (.add, ['B'])], 1, 1, 1, 1⟩,
    ⟨[(.remove, ['c']), (.add, ['C'])], 3, 1, 3, 1⟩]

/-- The third hunk has the drift of the first no more. -/
theorem drift_carried_once_lagging :
    Shifts 1 false "xabcc".toList (laggingHunks.take 2) "xABcc".toList false ∧
      (∀ hunk ∈ laggingHunks.take 2, ((hunk.start2 + 1 : Nat) : Int) ≤ maxSigned) ∧
      applyHunks laggingHunks "xabcc".toList =
        Prod.map id ([true, true] ++ ·)
          (applyHunksFrom 0 "xABcc".toList (laggingHunks.drop 2)) := by
  have shifts : Shifts 1 false "xabcc".toList (laggingHunks.take 2) "xABcc".toList false :=
    .found rfl (.followed ['x', 'A'] ['c', 'c'] rfl rfl (.done _ _))
  have places : ∀ hunk ∈ laggingHunks.take 2, ((hunk.start2 + 1 : Nat) : Int) ≤ maxSigned := by
    decide
  exact ⟨shifts, places, drift_carried_once shifts places (laggingHunks.drop 2)⟩

/-- The first hunk is found one character behind its place, and the others stand one character
behind theirs.  Yet the third does not go there: its source stands at its own place, too. -/
theorem drift_forgotten_lagging :
    (∀ hunk ∈ laggingHunks, hunk.source ≠ []) ∧ locate "xabcc".toList ['a'] 0 = some 1 ∧
      ReplacesShifted 1 "xabcc".toList laggingHunks "xABcC".toList ∧
      applyHunks laggingHunks "xabcc".toList = ("xABCc".toList, [true, true, true]) ∧
      "xABCc".toList ≠ "xABcC".toList := by
  have replaces : ReplacesShifted 1 "xabcc".toList laggingHunks "xABcC".toList :=
    .next ['x'] ['b', 'c', 'c'] rfl rfl (.next ['x', 'A'] ['c', 'c'] rfl rfl
      (.next ['x', 'A', 'B', 'c'] [] rfl rfl (.done _)))
  exact ⟨by decide, by decide, replaces, by decide +kernel, by decide⟩

end DocumentStore
