import RunManifest.Proofs.CommandLine.Writing

/-!
# Cuts between words

What a reader has completed plays no part in what it reads next.  So a line can be cut at any
blanks that stand outside quotes and behind no backslash: its words are those of the part before
them, followed by those of the part behind them.  At any such place a backslash and a line break can
be put in, and nothing of them is left in the words.
-/

namespace RunManifest.CommandLine

variable {before gap : Text}

namespace Reader

/-- A change of readers goes along with the steps in which a reader takes up a character. -/
structure Respects (change : Reader → Reader) (character : Char) : Prop where
  position : ∀ reader, (change reader).position = reader.position
  moveTo : ∀ reader position, (change reader).moveTo position = change (reader.moveTo position)
  openWord : ∀ reader, (change reader).openWord = change reader.openWord
  closeWord : ∀ reader, (change reader).closeWord = change reader.closeWord
  push : ∀ reader, (change reader).push character = change (reader.push character)
  pushBackslash : ∀ reader, (change reader).push '\\' = change (reader.push '\\')

namespace Respects

variable {change : Reader → Reader} {character : Char} (respects : Respects change character)
include respects

theorem readPlain (reader : Reader) :
    (change reader).readPlain character = change (reader.readPlain character) := by
  simp only [Reader.readPlain, apply_ite change, respects.openWord, respects.closeWord,
    respects.push, respects.moveTo]

theorem readDouble (reader : Reader) :
    (change reader).readDouble character = change (reader.readDouble character) := by
  simp only [Reader.readDouble, apply_ite change, respects.push, respects.moveTo]

/-- A reader that is changed before it takes up a character is the one that is changed after. -/
theorem read (reader : Reader) :
    (change reader).read character = change (reader.read character) := by
  unfold Reader.read
  rw [respects.position]
  -- A reader goes on from the position in which it stands.
  cases reader.position with
  | plain =>
      exact respects.readPlain reader
  | escape =>
      simp only [apply_ite change, respects.push, respects.moveTo]
  | escapedReturn =>
      simp only [apply_ite change, respects.readPlain, respects.moveTo]
  | single =>
      simp only [apply_ite change, respects.push, respects.moveTo]
  | double =>
      exact respects.readDouble reader
  | doubleEscape =>
      simp only [apply_ite change, respects.push, respects.pushBackslash, respects.readDouble,
        respects.moveTo]

end Respects

/-- A reader that has completed other words before its own. -/
def after (complete : List Text) (reader : Reader) : Reader :=
  { reader with words := complete ++ reader.words }

theorem respects_after (complete : List Text) (character : Char) :
    Respects (after complete) character where
  position _ := rfl
  moveTo _ _ := rfl
  openWord _ := rfl
  closeWord reader := by
    simp only [closeWord, after, List.append_assoc]
  push _ := rfl
  pushBackslash _ := rfl

theorem readAll_after (complete : List Text) (reader : Reader) (text : Text) :
    (reader.after complete).readAll text = (reader.readAll text).after complete := by
  induction text generalizing reader with
  | nil =>
      rfl
  | cons character rest inductionHypothesis =>
      rw [readAll_cons, readAll_cons, (respects_after complete character).read,
        inductionHypothesis]

theorem finish_after (complete : List Text) (reader : Reader) :
    (reader.after complete).finish = complete ++ reader.finish := by
  obtain ⟨words, begun?, position⟩ := reader
  cases position <;> simp [finish, after, closeWord, push]

end Reader

/-! ## Cuts -/

/-- Behind a text the reader stands outside quotes, and no backslash waits for what comes next. -/
def EndsPlain (text : Text) : Prop :=
  (Reader.start.readAll text).position = .plain

theorem EndsPlain.exists_reader (plain : EndsPlain before) :
    ∃ complete begun?, Reader.start.readAll before = ⟨complete, begun?, .plain⟩ ∧
      words before = complete ++ begun?.toList := by
  unfold words
  unfold EndsPlain at plain
  generalize Reader.start.readAll before = reached at plain ⊢
  obtain ⟨complete, begun?, position⟩ := reached
  cases plain
  exact ⟨complete, begun?, rfl, rfl⟩

/-- Blanks complete the word before them, and what follows is read as if it were the whole line. -/
theorem words_gap (plain : EndsPlain before) (present : gap ≠ [])
    (blanks : ∀ character ∈ gap, Text.isBlank character = true) (behind : Text) :
    words (before ++ gap ++ behind) = words before ++ words behind := by
  obtain ⟨complete, begun?, reached, wordsBefore⟩ := plain.exists_reader
  have atStart :
      (⟨complete ++ begun?.toList, none, .plain⟩ : Reader) =
        Reader.start.after (words before) := by
    simp [Reader.after, Reader.start, wordsBefore]
  calc words (before ++ gap ++ behind)
      = (((Reader.start.readAll before).readAll gap).readAll behind).finish := by
        rw [words, Reader.readAll_append, Reader.readAll_append]
    _ = ((Reader.start.after (words before)).readAll behind).finish := by
        rw [reached, Reader.readAll_gap present blanks, atStart]
    _ = words before ++ words behind := by
        rw [Reader.readAll_after, Reader.finish_after]
        rfl

/-- A backslash and a line break leave the reader as it was. -/
theorem readAll_continuation {lineBreak : Text} (isBreak : lineBreak ∈ [['\n'], ['\r', '\n']])
    (complete : List Text) (begun? : Option Text) :
    Reader.readAll ⟨complete, begun?, .plain⟩ ('\\' :: lineBreak) =
      ⟨complete, begun?, .plain⟩ := by
  simp only [List.mem_cons, List.not_mem_nil, or_false] at isBreak
  rcases isBreak with rfl | rfl
  · rfl
  · rfl

theorem words_continuation (plain : EndsPlain before) {lineBreak : Text}
    (isBreak : lineBreak ∈ [['\n'], ['\r', '\n']]) (behind : Text) :
    words (before ++ '\\' :: lineBreak ++ behind) = words (before ++ behind) := by
  obtain ⟨complete, begun?, reached, _⟩ := plain.exists_reader
  rw [words, words, Reader.readAll_append, Reader.readAll_append, Reader.readAll_append, reached,
    readAll_continuation isBreak]

/-- Outside quotes and behind no backslash, blanks cut a line into two lines, and a line that goes
on behind a backslash and a line break is read as if they were not there. -/
theorem words_of_endsPlain (plain : EndsPlain before) (behind : Text) :
    (∀ gap : Text, gap ≠ [] → (∀ character ∈ gap, Text.isBlank character = true) →
      words (before ++ gap ++ behind) = words before ++ words behind) ∧
    ∀ lineBreak ∈ [['\n'], ['\r', '\n']],
      words (before ++ '\\' :: lineBreak ++ behind) = words (before ++ behind) := by
  constructor
  · intro gap present blanks
    exact words_gap plain present blanks behind
  · intro lineBreak isBreak
    exact words_continuation plain isBreak behind

def quotedStart : Text :=
  "docker \\\r\nrun -e 'A=b c'\"\\\"\\\\\"\\ x".toList

theorem words_quotedStart :
    EndsPlain quotedStart ∧
      words (quotedStart ++ ['\t', '\u2028', '\n'] ++ "\"w eb".toList) =
        words quotedStart ++ words "\"w eb".toList ∧
      words (quotedStart ++ '\\' :: ['\r', '\n'] ++ "\"w eb".toList) =
        words (quotedStart ++ "\"w eb".toList) := by
  have plain : EndsPlain quotedStart := rfl
  obtain ⟨cut, continued⟩ := words_of_endsPlain plain "\"w eb".toList
  exact ⟨plain, cut _ (by decide) (List.all_eq_true.mp rfl), continued _ (by decide)⟩

example : words quotedStart =
    ["docker".toList, "run".toList, "-e".toList, "A=b c\"\\ x".toList] := by
  decide

end RunManifest.CommandLine
