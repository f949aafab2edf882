import DocumentStore.Json.Number
import DocumentStore.Proofs.Path.Lexing
import DocumentStore.Proofs.Success
import DocumentStore.Proofs.Text.Escapes
import DocumentStore.TextPatch.Reader

/-!
# Text patches read back

Hunks are written in lines: a header with the two coordinates, a line for each part, and blank lines
wherever one likes.  A coordinate has three forms, and which one is written depends on its length
alone; the part of a line is any escaped text that stands for it and takes one line.  Every list of
hunks can be written so, and reading what is written gives the very list.

* `coordinateText` — a start and a length as a header writes them.
* `Hunk.Writable` — the numbers of a hunk are numbers that a header can hold.
* `Escapes` — an escaped text stands for a text and takes one line.
* `WritesDiffs`, `WritesHunks` — lines that write the parts of a hunk, and a list of hunks.
* `endedLines` — lines with a line end behind each.

Principal results: `coordinateText?_coordinateText` — a coordinate is read back, whatever its form.
`headerOfLine_header`, `diffsOfLines_written` — so are the header of a hunk and its parts.
`hunksOfLines_written` — so is a list of hunks.  `hunksOf_written` — hunks can be written, and are
read back from every text that writes them.
-/

set_option autoImplicit false

namespace DocumentStore

/-! ## How hunks are written -/

/-- The text of a start and a length: an empty stretch has its start as it is, all others count
theirs from one, and the length of a single character is left out. -/
def coordinateText (start length : Nat) : List Char :=
  if length = 0 then digitsOf start ++ ",0".toList
  else if length = 1 then digitsOf (start + 1)
  else digitsOf (start + 1) ++ ',' :: digitsOf length

/-- The line that begins a hunk: `@@ -old +new @@`. -/
def Hunk.header (hunk : Hunk) : List Char :=
  ['@', '@', ' ', '-'] ++ (coordinateText hunk.start1 hunk.length1 ++
    [' ', '+'] ++ (coordinateText hunk.start2 hunk.length2 ++ [' ', '@', '@']))

/-- The numbers of a hunk are unsigned numbers of 64 bits, the starts also when counted from one. -/
structure Hunk.Writable (hunk : Hunk) : Prop where
  start1 : (hunk.start1 : Int) < maxUnsigned
  length1 : (hunk.length1 : Int) ≤ maxUnsigned
  start2 : (hunk.start2 : Int) < maxUnsigned
  length2 : (hunk.length2 : Int) ≤ maxUnsigned

/-- The first character of a line. -/
def DiffKind.sign : DiffKind → Char
  | .remove => '-'
  | .keep => ' '
  | .add => '+'

/-- An escaped text stands for a text, and takes one line. -/
structure Escapes (escaped text : List Char) : Prop where
  oneLine : '\n' ∉ escaped
  decodes : decodeUtf8 (unescapeBytes escaped) = .ok text

/-- Lines that write the parts of a hunk, with blank lines anywhere. -/
inductive WritesDiffs : List (DiffKind × List Char) → List (List Char) → Prop
  | done : WritesDiffs [] []
  | blank {diffs : List (DiffKind × List Char)} {lines : List (List Char)} :
    WritesDiffs diffs lines → WritesDiffs diffs ([] :: lines)
  | line {diffs : List (DiffKind × List Char)} {lines : List (List Char)} (kind : DiffKind)
    {escaped text : List Char} (escapes : Escapes escaped text) :
    WritesDiffs diffs lines → WritesDiffs ((kind, text) :: diffs) ((kind.sign :: escaped) :: lines)

/-- Lines that write hunks, with blank lines anywhere. -/
inductive WritesHunks : List Hunk → List (List Char) → Prop
  | done : WritesHunks [] []
  | blank {hunks : List Hunk} {lines : List (List Char)} :
    WritesHunks hunks lines → WritesHunks hunks ([] :: lines)
  | hunk {hunk : Hunk} {others : List Hunk} {body lines : List (List Char)}
    (parts : WritesDiffs hunk.diffs body) :
    WritesHunks others lines → WritesHunks (hunk :: others) (hunk.header :: (body ++ lines))

/-- Lines with a line end behind each. -/
def endedLines (lines : List (List Char)) : List Char := (lines.map (· ++ ['\n'])).flatten

/-! ## Coordinates -/

theorem isDecimalDigit_of_isAsciiDigit {c : Char} (h : isAsciiDigit c = true) :
    isDecimalDigit c = true := by
  simp only [isAsciiDigit, Bool.and_eq_true, decide_eq_true_eq] at h
  refine List.any_eq_true.mpr ⟨(0x30, 0x39), List.mem_cons_self, ?_⟩
  simp only [Bool.and_eq_true, decide_eq_true_eq]
  exact h

theorem digitsOf_decimal (n : Nat) : ∀ c ∈ digitsOf n, isDecimalDigit c = true :=
  fun c hc => isDecimalDigit_of_isAsciiDigit (digitsOf_digits n c hc)

theorem coordinateText?_comma {start length rest : List Char} (nonempty : start ≠ [])
    (hstart : ∀ c ∈ start, isDecimalDigit c = true)
    (hlength : ∀ c ∈ length, isDecimalDigit c = true) (clear : NoHead isDecimalDigit rest) :
    coordinateText? (start ++ ',' :: (length ++ rest)) = some (start, length, rest) := by
  have comma : NoHead isDecimalDigit (',' :: (length ++ rest)) := noHead_cons (by decide)
  unfold coordinateText?
  rw [takeWhile_append_noHead hstart comma, dropWhile_append_noHead hstart comma]
  cases start with
  | nil => exact absurd rfl nonempty
  | cons c tail =>
    simp only [takeWhile_append_noHead hlength clear, dropWhile_append_noHead hlength clear]

theorem coordinateText?_single {start rest : List Char} (nonempty : start ≠ [])
    (hstart : ∀ c ∈ start, isDecimalDigit c = true) :
    coordinateText? (start ++ ' ' :: rest) = some (start, [], ' ' :: rest) := by
  have blank : NoHead isDecimalDigit (' ' :: rest) := noHead_cons (by decide)
  unfold coordinateText?
  rw [takeWhile_append_noHead hstart blank, dropWhile_append_noHead hstart blank]
  cases start with
  | nil => exact absurd rfl nonempty
  | cons c tail =>
    have ends : isDecimalDigit ' ' = false := by decide
    simp [ends]

theorem natOfText?_digitsOf {n : Nat} (fits : (n : Int) ≤ maxUnsigned) :
    natOfText? (digitsOf n) = some n := by
  have digits : (digitsOf n).all isAsciiDigit = true := List.all_eq_true.mpr (digitsOf_digits n)
  have small : n < Nat.pow 2 64 := by
    have h : maxUnsigned < Nat.pow 2 64 := by decide
    exact Int.ofNat_lt.mp (Int.lt_of_le_of_lt fits h)
  rw [natOfText?, natOfDigits_digitsOf, digits, decide_eq_true small]
  rfl

section Forms

variable {start length : Nat}

theorem coordinate_empty (fits : (start : Int) ≤ maxUnsigned) :
    coordinate (digitsOf start) ['0'] = .ok (start, 0) := by
  rw [coordinate, natOfText?_digitsOf fits]
  rfl

theorem coordinate_single (fits : (start + 1 : Nat) ≤ maxUnsigned) :
    coordinate (digitsOf (start + 1)) [] = .ok (start, 1) := by
  rw [coordinate, natOfText?_digitsOf fits]
  rfl

theorem coordinate_stretch (nonzero : length ≠ 0) (fits : (start + 1 : Nat) ≤ maxUnsigned)
    (hlength : (length : Int) ≤ maxUnsigned) :
    coordinate (digitsOf (start + 1)) (digitsOf length) = .ok (start, length) := by
  have written : ¬ (digitsOf length).isEmpty = true := by simp [digitsOf_ne_nil]
  have positive : digitsOf length ≠ ['0'] := fun h =>
    nonzero ((natOfDigits_digitsOf length).symm.trans (congrArg natOfDigits h))
  simp only [coordinate, natOfText?_digitsOf fits, natOfText?_digitsOf hlength, if_neg written,
    if_neg positive, Nat.add_sub_cancel]

/-- **A coordinate is read back**, whichever of the three forms its length gives it. -/
theorem coordinateText?_coordinateText (hstart : (start : Int) < maxUnsigned)
    (hlength : (length : Int) ≤ maxUnsigned) (rest : List Char) :
    ∃ first second,
      coordinateText? (coordinateText start length ++ ' ' :: rest) =
        some (first, second, ' ' :: rest) ∧
      coordinate first second = .ok (start, length) := by
  have counted : (start + 1 : Nat) ≤ maxUnsigned := by omega
  have blank : NoHead isDecimalDigit (' ' :: rest) := noHead_cons (by decide)
  unfold coordinateText
  split
  · next empty =>
    subst empty
    have zero : ∀ c ∈ ['0'], isDecimalDigit c = true := List.forall_mem_singleton.mpr (by decide)
    refine ⟨_, _, ?_, coordinate_empty (Int.le_of_lt hstart)⟩
    rw [List.append_assoc]
    exact coordinateText?_comma (digitsOf_ne_nil start) (digitsOf_decimal start) zero blank
  · split
    · next single =>
      subst single
      refine ⟨_, _, ?_, coordinate_single counted⟩
      exact coordinateText?_single (digitsOf_ne_nil _) (digitsOf_decimal _)
    · next nonzero _ =>
      refine ⟨_, _, ?_, coordinate_stretch nonzero counted hlength⟩
      rw [List.append_assoc]
      exact coordinateText?_comma (digitsOf_ne_nil _) (digitsOf_decimal _)
        (digitsOf_decimal length) blank

end Forms

/-! ## Headers -/

/-- **The header of a hunk is read back.** -/
theorem headerOfLine_header {hunk : Hunk} (writable : hunk.Writable) :
    headerOfLine hunk.header =
      .ok ((hunk.start1, hunk.length1), (hunk.start2, hunk.length2)) := by
  let behind := coordinateText hunk.start2 hunk.length2 ++ " @@".toList
  obtain ⟨first1, second1, text1, read1⟩ :=
    coordinateText?_coordinateText writable.start1 writable.length1 ('+' :: behind)
  obtain ⟨first2, second2, text2, read2⟩ : ∃ first second,
      coordinateText? behind = some (first, second, " @@".toList) ∧
        coordinate first second = .ok (hunk.start2, hunk.length2) :=
    coordinateText?_coordinateText writable.start2 writable.length2 "@@".toList
  have opening : after? "@@ -".toList hunk.header =
      some (coordinateText hunk.start1 hunk.length1 ++ ' ' :: '+' :: behind) :=
    after?_eq_some_iff.mpr (by simp [Hunk.header, behind])
  have middle : after? " +".toList (' ' :: '+' :: behind) = some behind :=
    after?_eq_some_iff.mpr rfl
  have text : headerText? hunk.header = some ((first1, second1), (first2, second2)) := by
    unfold headerText?
    simp only [opening, text1, middle, text2, bind, Option.bind, if_true]
  unfold headerOfLine
  simp only [text, read1, read2]
  rfl

/-! ## Parts -/

theorem kindOfSign?_sign (kind : DiffKind) : kindOfSign? kind.sign = some kind := by
  cases kind <;> rfl

theorem diffOfLine_line (kind : DiffKind) {escaped text : List Char}
    (escapes : Escapes escaped text) :
    diffOfLine (kind.sign :: escaped) = .ok (kind, text) := by
  simp only [diffOfLine, kindOfSign?_sign, escapes.decodes]

theorem isBodyLine_sign (kind : DiffKind) (escaped : List Char) :
    isBodyLine (kind.sign :: escaped) = true := by
  cases kind <;> rfl

/-- Lines without the blank ones. -/
def writtenLines (lines : List (List Char)) : List (List Char) :=
  lines.filter (fun line => !line.isEmpty)

@[simp] theorem writtenLines_blank (lines : List (List Char)) :
    writtenLines ([] :: lines) = writtenLines lines := rfl

@[simp] theorem writtenLines_cons (c : Char) (line : List Char) (lines : List (List Char)) :
    writtenLines ((c :: line) :: lines) = (c :: line) :: writtenLines lines := rfl

@[simp] theorem writtenLines_append (lines others : List (List Char)) :
    writtenLines (lines ++ others) = writtenLines lines ++ writtenLines others :=
  List.filter_append ..

section Parts

variable {diffs : List (DiffKind × List Char)} {body : List (List Char)}

/-- **The parts of a hunk are read back.** -/
theorem diffsOfLines_written (parts : WritesDiffs diffs body) :
    diffsOfLines (writtenLines body) = .ok diffs := by
  induction parts with
  | done => rfl
  | blank _ ih => rwa [writtenLines_blank]
  | line kind escapes _ ih =>
    rw [writtenLines_cons, diffsOfLines, diffOfLine_line kind escapes, ih]
    rfl

theorem WritesDiffs.bodyLines (parts : WritesDiffs diffs body) :
    ∀ line ∈ writtenLines body, isBodyLine line = true := by
  induction parts with
  | done => simp [writtenLines]
  | blank _ ih => rwa [writtenLines_blank]
  | line kind _ _ ih =>
    rw [writtenLines_cons, List.forall_mem_cons]
    exact ⟨isBodyLine_sign kind _, ih⟩

theorem WritesDiffs.oneLine (parts : WritesDiffs diffs body) : ∀ line ∈ body, '\n' ∉ line := by
  induction parts with
  | done => simp
  | blank _ ih => simpa using ih
  | line kind escapes _ ih =>
    rw [List.forall_mem_cons]
    refine ⟨?_, ih⟩
    rw [List.mem_cons, not_or]
    exact ⟨by cases kind <;> decide, escapes.oneLine⟩

end Parts

/-! ## Hunks -/

theorem Hunk.header_eq (hunk : Hunk) : ∃ rest, hunk.header = '@' :: rest := ⟨_, rfl⟩

theorem digitsOf_oneLine (n : Nat) : '\n' ∉ digitsOf n := by
  intro h
  exact absurd (digitsOf_digits n _ h) (by decide)

theorem coordinateText_oneLine (start length : Nat) : '\n' ∉ coordinateText start length := by
  unfold coordinateText
  split
  · simp [digitsOf_oneLine]
  · split <;> simp [digitsOf_oneLine]

theorem Hunk.header_oneLine (hunk : Hunk) : '\n' ∉ hunk.header := by
  simp [header, coordinateText_oneLine]

section Hunks

variable {hunks : List Hunk} {lines : List (List Char)}

theorem WritesHunks.oneLine (written : WritesHunks hunks lines) :
    ∀ line ∈ lines, '\n' ∉ line := by
  induction written with
  | done => simp
  | blank _ ih => simpa using ih
  | @hunk hunk _ _ _ parts _ ih =>
    rw [List.forall_mem_cons, List.forall_mem_append]
    exact ⟨hunk.header_oneLine, parts.oneLine, ih⟩

theorem WritesHunks.header_first (written : WritesHunks hunks lines) :
    ∀ line rest, writtenLines lines = line :: rest → isBodyLine line = false := by
  induction written with
  | done => simp [writtenLines]
  | blank _ ih => rwa [writtenLines_blank]
  | @hunk hunk _ _ _ _ _ _ =>
    obtain ⟨text, heq⟩ := hunk.header_eq
    intro line rest h
    rw [heq, writtenLines_cons] at h
    rw [← (List.cons.inj h).1]
    rfl

/-- The lines of a hunk end where the next header stands. -/
theorem takeWhile_dropWhile_body {body behind : List (List Char)}
    (all : ∀ line ∈ body, isBodyLine line = true)
    (ends : ∀ line rest, behind = line :: rest → isBodyLine line = false) :
    (body ++ behind).takeWhile isBodyLine = body ∧
      (body ++ behind).dropWhile isBodyLine = behind := by
  rw [List.takeWhile_append_of_pos all, List.dropWhile_append_of_pos all]
  cases behind with
  | nil => simp
  | cons line rest => simp [ends line rest rfl]

/-- **Hunks are read back**, hunk by hunk. -/
theorem hunksOfLines_written (written : WritesHunks hunks lines)
    (writable : ∀ hunk ∈ hunks, hunk.Writable) :
    hunksOfLines (writtenLines lines) = .ok hunks := by
  induction written with
  | done =>
    show hunksOfLines [] = _
    rw [hunksOfLines]
  | blank _ ih =>
    rw [writtenLines_blank]
    exact ih writable
  | @hunk hunk others body lines parts more ih =>
    obtain ⟨fits, writable⟩ := List.forall_mem_cons.mp writable
    obtain ⟨taken, left⟩ := takeWhile_dropWhile_body parts.bodyLines more.header_first
    have header : writtenLines (hunk.header :: (body ++ lines)) =
        hunk.header :: (writtenLines body ++ writtenLines lines) := by
      obtain ⟨text, heq⟩ := hunk.header_eq
      rw [heq, writtenLines_cons, writtenLines_append]
    rw [header, hunksOfLines, headerOfLine_header fits, taken, left, diffsOfLines_written parts,
      ih writable]
    rfl

end Hunks

/-! ## Texts -/

theorem hunksOf_intercalate {lines : List (List Char)} (oneLine : ∀ line ∈ lines, '\n' ∉ line) :
    hunksOf (['\n'].intercalate lines) = hunksOfLines (writtenLines lines) := by
  cases lines with
  | nil => rfl
  | cons line others =>
    unfold hunksOf
    rw [piecesOf_intercalate (List.cons_ne_nil line others) oneLine]
    rfl

theorem endedLines_eq : ∀ lines : List (List Char),
    endedLines lines = ['\n'].intercalate (lines ++ [[]])
  | [] => rfl
  | line :: others => by
    have behind : others ++ [[]] ≠ [] := by simp
    rw [List.cons_append, List.intercalate_cons_of_ne_nil behind, ← endedLines_eq others]
    rfl

theorem hunksOf_endedLines {lines : List (List Char)} (oneLine : ∀ line ∈ lines, '\n' ∉ line) :
    hunksOf (endedLines lines) = hunksOfLines (writtenLines lines) := by
  have ended : ∀ line ∈ lines ++ [[]], '\n' ∉ line :=
    List.forall_mem_append.mpr ⟨oneLine, by simp⟩
  rw [endedLines_eq, hunksOf_intercalate ended, writtenLines_append]
  exact congrArg hunksOfLines (List.append_nil _)

theorem Escapes.unescaped {text : List Char} (oneLine : '\n' ∉ text) (plain : '%' ∉ text) :
    Escapes text text :=
  ⟨oneLine, decode_unescaped plain⟩

theorem escapes_escapeText (text : List Char) : Escapes (escapeText text) text :=
  ⟨newline_not_mem_escapeText text, decode_escapeText text⟩

theorem exists_writesDiffs : ∀ diffs : List (DiffKind × List Char), ∃ lines, WritesDiffs diffs lines
  | [] => ⟨[], .done⟩
  | (kind, text) :: rest => by
    obtain ⟨lines, written⟩ := exists_writesDiffs rest
    exact ⟨_, .line kind (escapes_escapeText text) written⟩

theorem exists_writesHunks : ∀ hunks : List Hunk, ∃ lines, WritesHunks hunks lines
  | [] => ⟨[], .done⟩
  | hunk :: others => by
    obtain ⟨body, parts⟩ := exists_writesDiffs hunk.diffs
    obtain ⟨lines, written⟩ := exists_writesHunks others
    exact ⟨_, .hunk parts written⟩

/-- **Hunks can be written, and are read back** from every text that writes them, whether or not
there is a line end behind the last line. -/
theorem hunksOf_written {hunks : List Hunk} (writable : ∀ hunk ∈ hunks, hunk.Writable) :
    (∃ lines, WritesHunks hunks lines) ∧
      ∀ lines, WritesHunks hunks lines →
        hunksOf (endedLines lines) = .ok hunks ∧
          hunksOf (['\n'].intercalate lines) = .ok hunks := by
  refine ⟨exists_writesHunks hunks, fun lines written => ?_⟩
  rw [hunksOf_endedLines written.oneLine, hunksOf_intercalate written.oneLine]
  exact ⟨hunksOfLines_written written writable, hunksOfLines_written written writable⟩

/-- A letter added to an empty text, and an accent and a line end behind a percent sign. -/
def verseHunks : List Hunk :=
  [⟨[(.add, "s".toList)], 0, 0, 0, 1⟩,
    ⟨[(.keep, "a%".toList), (.add, "é\n".toList), (.remove, [])], 4, 2, 4, 4⟩]

def verseLines : List (List Char) :=
  [[], "@@ -0,0 +1 @@".toList, [], "+s".toList,
    "@@ -5,2 +5,4 @@".toList, " a%25".toList, "+%C3%A9%0A".toList, [], "-".toList]

theorem writesHunks_verse : WritesHunks verseHunks verseLines := by
  have plain : Escapes "s".toList "s".toList := .unescaped (by decide) (by decide)
  have nothing : Escapes [] [] := .unescaped (by decide) (by decide)
  have percent : Escapes "a%25".toList "a%".toList :=
    ⟨by decide, eq_ok_of_toOption (by decide +kernel)⟩
  have accent : Escapes "%C3%A9%0A".toList "é\n".toList := escapes_escapeText "é\n".toList
  have title : WritesDiffs [(.add, "s".toList)] [[], "+s".toList] :=
    .blank (.line .add plain .done)
  have verse : WritesDiffs [(.keep, "a%".toList), (.add, "é\n".toList), (.remove, [])]
      [" a%25".toList, "+%C3%A9%0A".toList, [], "-".toList] :=
    .line .keep percent (.line .add accent (.blank (.line .remove nothing .done)))
  exact .blank (@WritesHunks.hunk ⟨_, 0, 0, 0, 1⟩ _ _ _ title
    (@WritesHunks.hunk ⟨_, 4, 2, 4, 4⟩ _ _ _ verse .done))

theorem hunksOf_written_verse :
    (∀ hunk ∈ verseHunks, hunk.Writable) ∧ WritesHunks verseHunks verseLines ∧
      endedLines verseLines =
        "\n@@ -0,0 +1 @@\n\n+s\n@@ -5,2 +5,4 @@\n a%25\n+%C3%A9%0A\n\n-\n".toList ∧
      hunksOf (endedLines verseLines) = .ok verseHunks := by
  have writable : ∀ hunk ∈ verseHunks, hunk.Writable := by
    unfold verseHunks
    rw [List.forall_mem_cons, List.forall_mem_singleton]
    exact ⟨⟨by decide, by decide, by decide, by decide⟩,
      ⟨by decide, by decide, by decide, by decide⟩⟩
  exact ⟨writable, writesHunks_verse, by decide,
    ((hunksOf_written writable).2 _ writesHunks_verse).1⟩

end DocumentStore
