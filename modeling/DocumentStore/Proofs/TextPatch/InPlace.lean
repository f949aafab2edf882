import DocumentStore.Json.Number
import DocumentStore.TextPatch.Basic

/-!
# Hunks in place

A hunk whose source stands where the hunk expects it goes there, wherever else the source stands,
and leaves no drift to the hunks behind it.  So hunks that are all in place replace their sources
exactly where they say.

* `Replaces` — sources replaced by targets, hunk after hunk, each at the place of its hunk.

Principal results: `locate_standing` — a pattern is found where it is expected.
`wrapSigned_of_fits` — a number of the signed range is itself.  `applyHunks_replaces` — hunks that
are in place are all applied there.
-/

set_option autoImplicit false

namespace DocumentStore

/-- Each hunk in turn finds its source at its place in the text that the hunks before it left, and
puts its target there. -/
inductive Replaces : List Char → List Hunk → List Char → Prop
  | done (text : List Char) : Replaces text [] text
  | next {text out : List Char} {hunk : Hunk} {rest : List Hunk} (before behind : List Char)
    (stands : text = before ++ hunk.source ++ behind) (place : before.length = hunk.start2)
    (others : Replaces (before ++ hunk.target ++ behind) rest out) :
    Replaces text (hunk :: rest) out

/-- **A pattern is found where it is expected**, wherever else it stands. -/
theorem locate_standing (before pattern behind : List Char) :
    locate (before ++ pattern ++ behind) pattern before.length = some before.length := by
  have inside : min before.length (before ++ pattern ++ behind).length = before.length := by
    simp only [List.length_append]
    omega
  have stands : pattern.isPrefixOf ((before ++ pattern ++ behind).drop before.length) = true := by
    rw [List.append_assoc, List.drop_left, List.isPrefixOf_iff_prefix]
    exact List.prefix_append pattern behind
  unfold locate
  simp only [inside, stands, if_true]
  split <;> rfl

theorem splice_between (before old behind new : List Char) :
    splice (before ++ old ++ behind) before.length old.length new = before ++ new ++ behind := by
  unfold splice
  rw [← List.length_append, List.drop_left, List.append_assoc before old, List.take_left]

theorem wrapSigned_of_fits {n : Int} (low : minSigned ≤ n) (high : n ≤ maxSigned) :
    wrapSigned n = n := by
  unfold minSigned at low
  unfold maxSigned at high
  unfold wrapSigned
  exact Int.bmod_eq_of_le_mul_two (by simp; omega) (by simp; omega)

theorem wrapSigned_place {place : Nat} (fits : (place : Int) ≤ maxSigned) :
    wrapSigned (place : Int) = place := by
  have low : minSigned ≤ (place : Int) := by
    unfold minSigned
    omega
  exact wrapSigned_of_fits low fits

theorem expectedPlace_zero {start : Nat} (fits : (start : Int) ≤ maxSigned) :
    expectedPlace start 0 = start := by
  unfold expectedPlace
  rw [Int.add_zero, wrapSigned_place fits, wrapSigned_place fits, Int.toNat_natCast]

/-- **Hunks that are in place are all applied, each at its place**, wherever else their sources
stand.  A text has fewer characters than there are signed numbers, so a place in it is one. -/
theorem applyHunks_replaces {text out : List Char} {hunks : List Hunk}
    (replaces : Replaces text hunks out)
    (places : ∀ hunk ∈ hunks, (hunk.start2 : Int) ≤ maxSigned) :
    applyHunks hunks text = (out, List.replicate hunks.length true) := by
  induction replaces with
  | done text => rfl
  | @next text out hunk rest before behind stands place others ih =>
    subst stands
    rw [List.forall_mem_cons] at places
    have expected : expectedPlace hunk.start2 0 = before.length :=
      (expectedPlace_zero places.1).trans place.symm
    have found : wrapSigned (before.length : Int) = before.length :=
      wrapSigned_place (place ▸ places.1)
    have nodrift : wrapSigned ((before.length : Int) - wrapSigned before.length) = 0 := by
      rw [found, Int.sub_self]
      rfl
    have later : applyHunksFrom 0 (before ++ hunk.target ++ behind) rest =
        (out, List.replicate rest.length true) := ih places.2
    unfold applyHunks applyHunksFrom
    simp only [expected, locate_standing, splice_between, nodrift, later]
    rfl

/-- A hunk without source at the front, and one whose source stands twice in what it leaves. -/
def accentHunks : List Hunk :=
  [⟨[(.add, ['é'])], 0, 0, 0, 1⟩, ⟨[(.keep, ['a']), (.remove, ['b']), (.add, ['ü'])], 4, 2, 4, 2⟩]

/-- The second hunk goes to the second of the two places. -/
theorem applyHunks_replaces_accents :
    Replaces "ab ab".toList accentHunks "éab aü".toList ∧
      (∀ hunk ∈ accentHunks, (hunk.start2 : Int) ≤ maxSigned) ∧
      applyHunks accentHunks "ab ab".toList = ("éab aü".toList, [true, true]) := by
  have replaces : Replaces "ab ab".toList accentHunks "éab aü".toList :=
    .next [] "ab ab".toList rfl rfl (.next "éab ".toList [] rfl rfl (.done _))
  have places : ∀ hunk ∈ accentHunks, (hunk.start2 : Int) ≤ maxSigned := by decide
  exact ⟨replaces, places, applyHunks_replaces replaces places⟩

end DocumentStore
