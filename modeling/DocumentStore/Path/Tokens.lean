import DocumentStore.Path.Token
import DocumentStore.Text.Blank
import DocumentStore.Text.Leading
import DocumentStore.Text.Quoted

/-!
# The tokens of a path text

Blanks separate tokens and mean nothing else.  Where several signs start alike the longer one is
taken; `true` and `false` are truth values only as whole words.

* `Token.next?` — the token at the start of a text.
* `tokensOf` — all tokens of a text, or the rest of it that starts with none.

`Token.length_of_next?`: a token takes at least one character.
-/

set_option autoImplicit false

namespace DocumentStore

/-- The signs, in the order in which they are tried. -/
def signTable : List (String × Token) :=
  [("..", .joint .descent), (".", .joint .dot), (",", .joint .comma), (":", .joint .colon),
   ("?", .joint .question), (">=", .comparator .ge), (">", .comparator .gt),
   ("<=", .comparator .le), ("<", .comparator .lt), ("==", .comparator .eq),
   ("!=", .comparator .ne), ("$", .alias .dollar), ("@", .alias .atSign),
   ("[", .bracket .opening), ("]", .bracket .closing)]

/-- The sign at the start of a text. -/
def nextSign? (text : List Char) : Option (Token × List Char) :=
  signTable.findSome? (fun (symbol, token) => (after? symbol.toList text).map (token, ·))

/-- The identifier at the start of a text and the rest behind it. -/
def scanIdentifier? : List Char → Option (List Char × List Char)
  | [] => none
  | c :: rest =>
    if isIdentifierStart c then
      some (c :: rest.takeWhile isIdentifierPart, rest.dropWhile isIdentifierPart)
    else none

/-- The token that a word is: a truth value or an identifier. -/
def wordToken (word : List Char) : Token :=
  if word = "true".toList then .boolean true
  else if word = "false".toList then .boolean false
  else .identifier (String.ofList word)

/-- The quoted text behind its opening mark, as a token. -/
def quotedToken? (mark : QuoteMark) (rest : List Char) : Option (Token × List Char) :=
  (unquote? mark.char rest).map (fun (text, tail) => (.quoted (String.ofList text) mark, tail))

/-- The quoted text at the start of a text. -/
def nextQuoted? : List Char → Option (Token × List Char)
  | '"' :: rest => quotedToken? .double rest
  | '\'' :: rest => quotedToken? .single rest
  | _ => none

namespace Token

/-- The token at the start of a text, which has no leading blanks, and the rest behind it. -/
def next? (text : List Char) : Option (Token × List Char) :=
  nextSign? text
    <|> (scanIdentifier? text).map (fun (word, rest) => (wordToken word, rest))
    <|> (Numeral.scan? text).map (fun (n, rest) => (.number n, rest))
    <|> nextQuoted? text

end Token

theorem length_of_nextSign? {text rest : List Char} {token : Token}
    (h : nextSign? text = some (token, rest)) : rest.length < text.length := by
  unfold nextSign? at h
  obtain ⟨⟨symbol, t⟩, hmem, hsome⟩ := List.exists_of_findSome?_eq_some h
  obtain ⟨r, hr, he⟩ := Option.map_eq_some_iff.1 hsome
  simp only [Prod.mk.injEq] at he
  rw [← he.2]
  have hall : ∀ entry ∈ signTable, 0 < entry.1.toList.length := by decide
  have hpos := hall _ hmem
  rw [after?_eq_some_iff.1 hr, List.length_append]
  simp only at hpos
  omega

theorem length_of_scanIdentifier? {text word rest : List Char}
    (h : scanIdentifier? text = some (word, rest)) : rest.length < text.length := by
  unfold scanIdentifier? at h
  split at h
  · simp at h
  · next c tail =>
    split at h
    · simp only [Option.some.injEq, Prod.mk.injEq] at h
      have := (List.dropWhile_sublist (l := tail) isIdentifierPart).length_le
      rw [← h.2, List.length_cons]
      omega
    · simp at h

theorem length_of_quotedToken? {mark : QuoteMark} {input rest : List Char} {token : Token}
    (h : quotedToken? mark input = some (token, rest)) : rest.length < input.length := by
  obtain ⟨⟨text, tail⟩, htail, he⟩ := Option.map_eq_some_iff.1 h
  simp only [Prod.mk.injEq] at he
  rw [← he.2]
  exact length_of_unquote? htail

theorem length_of_nextQuoted? {text rest : List Char} {token : Token}
    (h : nextQuoted? text = some (token, rest)) : rest.length < text.length := by
  unfold nextQuoted? at h
  split at h
  · exact Nat.lt_succ_of_lt (length_of_quotedToken? h)
  · exact Nat.lt_succ_of_lt (length_of_quotedToken? h)
  · simp at h

/-- A token takes at least one character. -/
theorem Token.length_of_next? {text rest : List Char} {token : Token}
    (h : Token.next? text = some (token, rest)) : rest.length < text.length := by
  unfold Token.next? at h
  rcases hs : nextSign? text with _ | ⟨t, r⟩
  · rcases hi : scanIdentifier? text with _ | ⟨w, r⟩
    · rcases hn : Numeral.scan? text with _ | ⟨n, r⟩
      · simp [hs, hi, hn] at h
        exact length_of_nextQuoted? h
      · simp [hs, hi, hn] at h
        rw [← h.2]
        exact Numeral.length_of_scan? hn
    · simp [hs, hi] at h
      rw [← h.2]
      exact length_of_scanIdentifier? hi
  · simp [hs] at h
    rw [← h.2]
    exact length_of_nextSign? hs

/-- The tokens of a text; when the text breaks off, the rest of it that starts with no token. -/
def tokensOf (text : List Char) : Except (List Char) (List Token) :=
  if (skipBlanks text).isEmpty then .ok []
  else match _h : Token.next? (skipBlanks text) with
    | none => .error (skipBlanks text)
    | some (token, rest) => (tokensOf rest).map (token :: ·)
  termination_by text.length
  decreasing_by
    have := Token.length_of_next? _h
    have := length_skipBlanks_le text
    omega

end DocumentStore
