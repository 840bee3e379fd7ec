import RunManifest.Proofs.CommandLine.Quoting

/-!
# Ways of writing words

A word can be written between single quotes or between double quotes.  Without quotes it can be
written with a backslash before each of its characters, unless it is empty or holds a line break.
However the words of a line are written, and whatever blanks stand between them, reading the line
gives the words back.
-/

namespace RunManifest.CommandLine

variable {word text gap : Text} {line : List Text}

/-- A character between double quotes. -/
def doublyQuotedCharacter (character : Char) : Text :=
  if character = '"' ∨ character = '\\' then ['\\', character] else [character]

/-- A word between double quotes. -/
def doublyQuoted (word : Text) : Text :=
  '"' :: word.flatMap doublyQuotedCharacter ++ ['"']

/-- A word without quotes, in which every character loses its meaning. -/
def escaped (word : Text) : Text :=
  word.flatMap fun character => ['\\', character]

/-- A text is one of the ways in which a word can be written. -/
inductive Writes (word : Text) : Text → Prop
  | single : Writes word (quoted word)
  | double : Writes word (doublyQuoted word)
  | bare (present : word ≠ []) (noLineFeed : '\n' ∉ word) (noReturn : '\r' ∉ word) :
      Writes word (escaped word)

/-- A text is one of the ways in which a line of words can be written, with blanks between two of
them. -/
inductive WritesLine : List Text → Text → Prop
  | nil : WritesLine [] []
  | last {word text : Text} (writes : Writes word text) : WritesLine [word] text
  | cons {word text gap rest : Text} {line : List Text} (writes : Writes word text)
      (gapPresent : gap ≠ []) (gapBlank : ∀ character ∈ gap, Text.isBlank character = true)
      (lineNotEmpty : line ≠ []) (writesRest : WritesLine line rest) :
      WritesLine (word :: line) (text ++ gap ++ rest)

/-! ## Reading back -/

namespace Reader

variable {complete : List Text}

theorem readAll_doublyQuotedCharacter (begun : Text) (character : Char) :
    readAll ⟨complete, some begun, .double⟩ (doublyQuotedCharacter character) =
      ⟨complete, some (begun ++ [character]), .double⟩ := by
  by_cases special : character = '"' ∨ character = '\\'
  · have kept :
        read ⟨complete, some begun, .doubleEscape⟩ character =
          ⟨complete, some (begun ++ [character]), .double⟩ := by
      simp only [read, if_pos special]
      rfl
    rw [doublyQuotedCharacter, if_pos special, readAll_cons, readAll_cons, readAll_nil, ← kept]
    rfl
  · rw [doublyQuotedCharacter, if_neg special, readAll_cons, readAll_nil]
    rw [not_or] at special
    simp only [read, readDouble, if_neg special.1, if_neg special.2]
    rfl

theorem readAll_doublyQuotedCharacters (begun word : Text) :
    readAll ⟨complete, some begun, .double⟩ (word.flatMap doublyQuotedCharacter) =
      ⟨complete, some (begun ++ word), .double⟩ := by
  induction word generalizing begun with
  | nil =>
      simp
  | cons character rest inductionHypothesis =>
      rw [List.flatMap_cons, readAll_append, readAll_doublyQuotedCharacter, inductionHypothesis,
        List.append_assoc, List.singleton_append]

theorem readAll_doublyQuoted (word : Text) :
    readAll ⟨complete, none, .plain⟩ (doublyQuoted word) = ⟨complete, some word, .plain⟩ := by
  have opened :
      read ⟨complete, none, .plain⟩ '"' = ⟨complete, some [], .double⟩ := rfl
  have closed :
      read ⟨complete, some word, .double⟩ '"' = ⟨complete, some word, .plain⟩ := rfl
  rw [doublyQuoted, List.cons_append, readAll_cons, opened, readAll_append,
    readAll_doublyQuotedCharacters, List.nil_append, readAll_cons, closed, readAll_nil]

/-- A backslash keeps any character but those that end a line. -/
theorem read_escape {character : Char} (notLineFeed : character ≠ '\n')
    (notReturn : character ≠ '\r') (begun? : Option Text) :
    read ⟨complete, begun?, .escape⟩ character =
      ⟨complete, some (begun?.getD [] ++ [character]), .plain⟩ := by
  simp only [read, if_neg notLineFeed, if_neg notReturn]
  rfl

theorem readAll_escaped (noLineFeed : '\n' ∉ word) (noReturn : '\r' ∉ word) (begun : Text) :
    readAll ⟨complete, some begun, .plain⟩ (escaped word) =
      ⟨complete, some (begun ++ word), .plain⟩ := by
  induction word generalizing begun with
  | nil =>
      simp [escaped]
  | cons character rest inductionHypothesis =>
      rw [List.mem_cons, not_or] at noLineFeed noReturn
      have turned :
          read ⟨complete, some begun, .plain⟩ '\\' = ⟨complete, some begun, .escape⟩ := rfl
      rw [escaped, List.flatMap_cons, readAll_append, readAll_cons, turned, readAll_cons,
        read_escape (Ne.symm noLineFeed.1) (Ne.symm noReturn.1), readAll_nil, Option.getD_some]
      have readRest := inductionHypothesis noLineFeed.2 noReturn.2 (begun ++ [character])
      rw [escaped, List.append_assoc, List.singleton_append] at readRest
      exact readRest

/-- However a word is written, reading it begins this word. -/
theorem readAll_of_writes (writes : Writes word text) :
    readAll ⟨complete, none, .plain⟩ text = ⟨complete, some word, .plain⟩ := by
  cases writes with
  | single =>
      rw [readAll_quoted, Option.getD_none, List.nil_append]
  | double =>
      exact readAll_doublyQuoted word
  | bare present noLineFeed noReturn =>
      -- Without quotes, the first character is what begins the word.
      cases word with
      | nil =>
          exact absurd rfl present
      | cons first rest =>
          rw [List.mem_cons, not_or] at noLineFeed noReturn
          have turned :
              read ⟨complete, none, .plain⟩ '\\' = ⟨complete, none, .escape⟩ := rfl
          have readRest :
              readAll ⟨complete, some [first], .plain⟩ (escaped rest) =
                ⟨complete, some ([first] ++ rest), .plain⟩ :=
            readAll_escaped noLineFeed.2 noReturn.2 [first]
          rw [escaped, List.flatMap_cons, readAll_append, readAll_cons, turned, readAll_cons,
            read_escape (Ne.symm noLineFeed.1) (Ne.symm noReturn.1), readAll_nil,
            Option.getD_none, List.nil_append]
          exact readRest

/-- A blank has no meaning of its own. -/
theorem read_blank {character : Char} (blank : Text.isBlank character = true)
    (begun? : Option Text) :
    read ⟨complete, begun?, .plain⟩ character = ⟨complete ++ begun?.toList, none, .plain⟩ := by
  have different : ∀ other, Text.isBlank other = false → character ≠ other := by
    rintro other solid rfl
    rw [blank] at solid
    cases solid
  simp only [read, readPlain, if_neg (different '\'' rfl), if_neg (different '"' rfl),
    if_neg (different '\\' rfl), if_pos blank]
  rfl

theorem readAll_blanks (blanks : ∀ character ∈ gap, Text.isBlank character = true) :
    readAll ⟨complete, none, .plain⟩ gap = ⟨complete, none, .plain⟩ := by
  induction gap with
  | nil =>
      rfl
  | cons first rest inductionHypothesis =>
      obtain ⟨firstBlank, restBlank⟩ := List.forall_mem_cons.mp blanks
      rw [readAll_cons, read_blank firstBlank, Option.toList_none, List.append_nil,
        inductionHypothesis restBlank]

/-- A gap ends the word that has begun before it, if any. -/
theorem readAll_gap (present : gap ≠ [])
    (blanks : ∀ character ∈ gap, Text.isBlank character = true) (begun? : Option Text) :
    readAll ⟨complete, begun?, .plain⟩ gap = ⟨complete ++ begun?.toList, none, .plain⟩ := by
  cases gap with
  | nil =>
      exact absurd rfl present
  | cons first rest =>
      obtain ⟨firstBlank, restBlank⟩ := List.forall_mem_cons.mp blanks
      rw [readAll_cons, read_blank firstBlank, readAll_blanks restBlank]

theorem finish_readAll_of_writesLine (writes : WritesLine line text) :
    (readAll ⟨complete, none, .plain⟩ text).finish = complete ++ line := by
  induction writes generalizing complete with
  | nil =>
      simp [finish, closeWord]
  | last writes =>
      rw [readAll_of_writes writes]
      rfl
  | cons writes gapPresent gapBlank _ _ inductionHypothesis =>
      rw [readAll_append, readAll_append, readAll_of_writes writes,
        readAll_gap gapPresent gapBlank, inductionHypothesis, Option.toList_some,
        List.append_assoc, List.singleton_append]

end Reader

/-- Reading a line gives back the words that were written, whichever way each of them was. -/
theorem words_of_writesLine (writes : WritesLine line text) :
    words text = line := by
  rw [words, Reader.start, Reader.finish_readAll_of_writesLine writes, List.nil_append]

def mixedLine : List Text :=
  ["it's".toList, [], "a \"b\"\\\n".toList, "-p $'".toList]

def mixedText : Text :=
  quoted "it's".toList ++ [' ', '\t'] ++ (doublyQuoted [] ++ ['\n'] ++
    (doublyQuoted "a \"b\"\\\n".toList ++ ['\u2028'] ++ escaped "-p $'".toList))

theorem words_mixedText :
    WritesLine mixedLine mixedText ∧ words mixedText = mixedLine := by
  have writesLast : WritesLine ["-p $'".toList] (escaped "-p $'".toList) :=
    .last (.bare (by decide) (by decide) (by decide))
  have writes : WritesLine mixedLine mixedText :=
    .cons .single (by decide) (List.all_eq_true.mp rfl) (by decide) <|
      .cons .double (by decide) (List.all_eq_true.mp rfl) (by decide) <|
        .cons .double (by decide) (List.all_eq_true.mp rfl) (by decide) writesLast
  exact ⟨writes, words_of_writesLine writes⟩

example : mixedText =
    "'it'\\''s' \t\"\"\n\"a \\\"b\\\"\\\\\n\"\u2028\\-\\p\\ \\$\\'".toList := by
  decide

end RunManifest.CommandLine
