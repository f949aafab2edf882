/-!
# Quoted text

Between quotes a backslash makes the next character stand for itself.  Writing puts a backslash
before the quote and the backslash only; reading accepts it before any character.

* `quote` — text between quotes.
* `unquote?` — the text up to the closing quote, and what follows it.
* `Escaped` — the ways in which a text may stand between quotes.

`Escaped.unquote?_eq`: reading gives back what was written in any of these ways, whatever follows.
`escaped_escapeQuoted`: what `quote` writes is one of them.
`length_of_unquote?`: what follows a closed quote is shorter than the text.
-/

set_option autoImplicit false

namespace DocumentStore

/-- Text with a backslash before every quote and backslash. -/
def escapeQuoted (mark : Char) : List Char → List Char
  | [] => []
  | c :: rest =>
    if c = mark ∨ c = '\\' then '\\' :: c :: escapeQuoted mark rest
    else c :: escapeQuoted mark rest

/-- Text between two quotes. -/
def quote (mark : Char) (text : List Char) : List Char :=
  mark :: (escapeQuoted mark text ++ [mark])

/-- The text up to the closing quote and the rest behind it; `none` when no quote closes. -/
def unquote? (mark : Char) : List Char → Option (List Char × List Char)
  | [] => none
  | c :: rest =>
    if c = '\\' then
      match rest with
      | [] => none
      | d :: rest => (unquote? mark rest).map (fun (text, tail) => (d :: text, tail))
    else if c = mark then some ([], rest)
    else (unquote? mark rest).map (fun (text, tail) => (c :: text, tail))

/-- The characters `written` stand for a text between two quotes.  Any of its characters may be
behind a backslash, and a quote or a backslash must be. -/
inductive Escaped (mark : Char) : (written text : List Char) → Prop
  | done : Escaped mark [] []
  | plain {c : Char} {written text : List Char} (hmark : c ≠ mark) (hbackslash : c ≠ '\\')
    (h : Escaped mark written text) : Escaped mark (c :: written) (c :: text)
  | escaped {written text : List Char} (c : Char) (h : Escaped mark written text) :
    Escaped mark ('\\' :: c :: written) (c :: text)

theorem escaped_escapeQuoted (mark : Char) (text : List Char) :
    Escaped mark (escapeQuoted mark text) text := by
  induction text with
  | nil => exact .done
  | cons c rest ih =>
    rw [escapeQuoted]
    split
    · exact .escaped c ih
    · next h => exact .plain (fun e => h (.inl e)) (fun e => h (.inr e)) ih

/-- Reading gives back what was written, whatever follows. -/
theorem Escaped.unquote?_eq {mark : Char} (h : mark ≠ '\\') {written text : List Char}
    (escaped : Escaped mark written text) (tail : List Char) :
    unquote? mark (written ++ mark :: tail) = some (text, tail) := by
  induction escaped with
  | done =>
    rw [List.nil_append, unquote?.eq_def]
    simp [h]
  | plain hmark hbackslash _ ih =>
    rw [List.cons_append, unquote?.eq_def]
    simp [hmark, hbackslash, ih]
  | escaped c _ ih => simp [unquote?, ih]

/-- What follows a closed quote is shorter than what follows its opening. -/
theorem length_of_unquote? {mark : Char} {input text tail : List Char}
    (h : unquote? mark input = some (text, tail)) : tail.length < input.length := by
  fun_induction unquote? mark input generalizing text tail with
  | case1 => simp at h
  | case2 => simp at h
  | case3 d rest ih =>
    obtain ⟨⟨t, r⟩, hr, he⟩ := Option.map_eq_some_iff.1 h
    simp only [Prod.mk.injEq] at he
    have := ih hr
    rw [← he.2]
    simp only [List.length_cons]
    omega
  | case4 =>
    simp only [Option.some.injEq, Prod.mk.injEq] at h
    simp [h.2]
  | case5 c rest hc hm ih =>
    obtain ⟨⟨t, r⟩, hr, he⟩ := Option.map_eq_some_iff.1 h
    simp only [Prod.mk.injEq] at he
    have := ih hr
    rw [← he.2]
    simp only [List.length_cons]
    omega

end DocumentStore
