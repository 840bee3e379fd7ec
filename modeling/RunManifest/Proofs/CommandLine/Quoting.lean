import RunManifest.CommandLine.Words

/-!
# Quoted words

Any word can be written between single quotes, and a line of quoted words is read as these words,
whatever characters they hold.
-/

namespace RunManifest.CommandLine

/-- A character between single quotes. A quote ends them, stands behind a backslash, and begins
them anew. -/
def quotedCharacter (character : Char) : Text :=
  if character = '\'' then
    ['\'', '\\', '\'', '\'']
  else
    [character]

/-- A word between single quotes. -/
def quoted (word : Text) : Text :=
  '\'' :: word.flatMap quotedCharacter ++ ['\'']

/-- Words between single quotes, with a blank between two of them. -/
def quotedLine (words : List Text) : Text :=
  [' '].intercalate (words.map quoted)

/-! ## Reading back -/

namespace Reader

variable {complete : List Text}

theorem readAll_quotedCharacter (begun : Text) (character : Char) :
    readAll ⟨complete, some begun, .single⟩ (quotedCharacter character) =
      ⟨complete, some (begun ++ [character]), .single⟩ := by
  by_cases quote : character = '\''
  · subst quote
    simp [quotedCharacter, read, readPlain, push, openWord, moveTo]
  · simp [quotedCharacter, quote, read, push]

theorem readAll_quotedCharacters (begun word : Text) :
    readAll ⟨complete, some begun, .single⟩ (word.flatMap quotedCharacter) =
      ⟨complete, some (begun ++ word), .single⟩ := by
  induction word generalizing begun with
  | nil =>
      simp
  | cons character rest inductionHypothesis =>
      rw [List.flatMap_cons, readAll_append, readAll_quotedCharacter, inductionHypothesis,
        List.append_assoc, List.singleton_append]

/-- A quoted word is added to the word that has begun before it, if any. -/
theorem readAll_quoted (current? : Option Text) (word : Text) :
    readAll ⟨complete, current?, .plain⟩ (quoted word) =
      ⟨complete, some (current?.getD [] ++ word), .plain⟩ := by
  have opened :
      read ⟨complete, current?, .plain⟩ '\'' =
        ⟨complete, some (current?.getD []), .single⟩ := by
    simp [read, readPlain, openWord, moveTo]
  rw [quoted, List.cons_append, readAll_cons, opened, readAll_append, readAll_quotedCharacters]
  simp [read, moveTo]

theorem finish_readAll_quotedLine (words : List Text) :
    (readAll ⟨complete, none, .plain⟩ (quotedLine words)).finish = complete ++ words := by
  induction words generalizing complete with
  | nil =>
      simp [quotedLine, finish, closeWord]
  | cons first rest inductionHypothesis =>
      cases rest with
      | nil =>
          simp [quotedLine, readAll_quoted, finish, closeWord]
      | cons second others =>
          have split :
              quotedLine (first :: second :: others) =
                quoted first ++ ' ' :: quotedLine (second :: others) := by
            simp [quotedLine, List.intercalate]
          have closed :
              read ⟨complete, some first, .plain⟩ ' ' =
                ⟨complete ++ [first], none, .plain⟩ := by
            simp [read, readPlain, closeWord, moveTo, Text.isBlank]
          rw [split, readAll_append, readAll_quoted, Option.getD_none, List.nil_append,
            readAll_cons, closed, inductionHypothesis, List.append_assoc,
            List.singleton_append]

end Reader

/-- A line of quoted words is read as these words. -/
theorem words_quotedLine (line : List Text) :
    words (quotedLine line) = line := by
  rw [words, Reader.start, Reader.finish_readAll_quotedLine, List.nil_append]

example : quotedLine ["it's".toList, [], "-d".toList] = "'it'\\''s' '' '-d'".toList := by
  decide

end RunManifest.CommandLine
