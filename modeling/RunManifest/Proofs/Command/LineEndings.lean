import RunManifest.Command
import RunManifest.Proofs.CommandLine.Cuts
import RunManifest.Proofs.Text
import RunManifest.Source

/-!
# Line endings

A line feed can be written with a carriage return before it.  Between words and behind a backslash
this makes no difference, and in a word that holds a line feed it stands there too.  So a command is
the same with either line ending unless a word of it holds one, and a clipboard that adds the
carriage returns, with one more line ending, still gives the text.
-/

namespace RunManifest

namespace Text

variable {text : Text}

/-- A text with a carriage return before each line feed. -/
def withReturns (text : Text) : Text :=
  text.flatMap fun character => if character = '\n' then ['\r', '\n'] else [character]

@[simp]
theorem withReturns_nil : withReturns [] = [] := rfl

theorem withReturns_singleton (character : Char) :
    withReturns [character] = if character = '\n' then ['\r', '\n'] else [character] := by
  rw [withReturns, List.flatMap_singleton]

theorem withReturns_append (first second : Text) :
    withReturns (first ++ second) = withReturns first ++ withReturns second := by
  rw [withReturns, withReturns, withReturns, List.flatMap_append]

theorem withReturns_cons (character : Char) (rest : Text) :
    withReturns (character :: rest) = withReturns [character] ++ withReturns rest :=
  withReturns_append [character] rest

theorem withReturns_eq_self (noFeed : '\n' ∉ text) : withReturns text = text := by
  induction text with
  | nil =>
      rfl
  | cons character rest inductionHypothesis =>
      rw [List.mem_cons, not_or] at noFeed
      rw [withReturns_cons, withReturns_singleton, if_neg (Ne.symm noFeed.1),
        inductionHypothesis noFeed.2, List.singleton_append]

theorem filter_withReturns (noReturn : '\r' ∉ text) :
    (withReturns text).filter (fun character => character ≠ '\r') = text := by
  induction text with
  | nil =>
      rfl
  | cons character rest inductionHypothesis =>
      rw [List.mem_cons, not_or] at noReturn
      rw [withReturns_cons, List.filter_append, inductionHypothesis noReturn.2,
        withReturns_singleton]
      by_cases feed : character = '\n'
      · subst feed
        rfl
      · rw [if_neg feed, List.filter_cons_of_pos (by simp [Ne.symm noReturn.1])]
        rfl

theorem trim_withReturns_eq_nil_iff : trim (withReturns text) = [] ↔ trim text = [] := by
  rw [trim_eq_nil_iff, trim_eq_nil_iff]
  induction text with
  | nil =>
      rfl
  | cons character rest inductionHypothesis =>
      rw [withReturns_cons, List.forall_mem_append, inductionHypothesis, List.forall_mem_cons,
        withReturns_singleton]
      by_cases feed : character = '\n'
      · subst feed
        simp [isBlank]
      · simp [feed]

end Text

namespace CommandLine

open Text (withReturns)

namespace Reader

variable {reader : Reader} {character : Char} {text : Text}

/-- A reader with carriage returns before the line feeds in its words. -/
def returned (reader : Reader) : Reader where
  words := reader.words.map withReturns
  current? := reader.current?.map withReturns
  position := reader.position

theorem push_returned (notFeed : character ≠ '\n') (reader : Reader) :
    reader.returned.push character = (reader.push character).returned := by
  cases begun : reader.current? with
  | none =>
      simp [push, returned, begun, Text.withReturns_singleton, notFeed]
  | some word =>
      simp [push, returned, begun, Text.withReturns_append, Text.withReturns_singleton, notFeed]

theorem push_push_returned (reader : Reader) :
    (reader.returned.push '\r').push '\n' = (reader.push '\n').returned := by
  cases begun : reader.current? with
  | none =>
      simp [push, returned, begun, Text.withReturns_singleton]
  | some word =>
      simp [push, returned, begun, Text.withReturns_append, Text.withReturns_singleton]

theorem closeWord_returned (reader : Reader) :
    reader.returned.closeWord = reader.closeWord.returned := by
  cases begun : reader.current? <;> simp [closeWord, returned, begun]

theorem respects_returned (notFeed : character ≠ '\n') : Respects returned character where
  position _ := rfl
  moveTo _ _ := rfl
  openWord reader := by
    cases begun : reader.current? <;> simp [openWord, returned, begun]
  closeWord := closeWord_returned
  push := push_returned notFeed
  pushBackslash := push_returned (by decide)

/-- A reader is not between a carriage return and the line feed that may follow it. -/
def IsSettled (reader : Reader) : Prop :=
  reader.position ≠ .escapedReturn

theorem IsSettled.read (settled : reader.IsSettled) (notReturn : character ≠ '\r') :
    (reader.read character).IsSettled := by
  obtain ⟨words, begun?, position⟩ := reader
  unfold IsSettled at settled ⊢
  cases position with
  | plain =>
      simp only [Reader.read, readPlain]
      split_ifs <;> simp [moveTo]
  | escape =>
      simp only [Reader.read, if_neg notReturn]
      split_ifs <;> simp [moveTo]
  | escapedReturn =>
      exact absurd rfl settled
  | single =>
      simp only [Reader.read]
      split_ifs <;> simp [moveTo, push]
  | double =>
      simp only [Reader.read, readDouble]
      split_ifs <;> simp [moveTo]
  | doubleEscape =>
      simp only [Reader.read, readDouble]
      split_ifs <;> simp [moveTo]

/-- A line feed is read like a carriage return and a line feed: as blanks between words, as nothing
behind a backslash, and as itself between quotes. -/
theorem readAll_returned_feed (settled : reader.IsSettled) :
    reader.returned.readAll ['\r', '\n'] = (reader.read '\n').returned := by
  obtain ⟨words, begun?, position⟩ := reader
  cases position with
  | plain =>
      rw [readAll_cons, readAll_cons, readAll_nil]
      simp only [returned]
      rw [read_blank rfl, read_blank rfl, read_blank rfl]
      cases begun? <;> simp
  | escape =>
      rfl
  | escapedReturn =>
      exact absurd rfl settled
  | single =>
      exact push_push_returned ⟨words, begun?, .single⟩
  | double =>
      exact push_push_returned ⟨words, begun?, .double⟩
  | doubleEscape =>
      -- The backslash that has waited stands for itself, as if it had been pushed before.
      have waited :
          returned (push ⟨words, begun?, .double⟩ '\\') =
            push (returned ⟨words, begun?, .double⟩) '\\' :=
        (push_returned (by decide) _).symm
      have pushed := push_push_returned (push ⟨words, begun?, .double⟩ '\\')
      rw [waited] at pushed
      exact pushed

theorem readAll_returned_singleton (settled : reader.IsSettled) (notReturn : character ≠ '\r') :
    reader.returned.readAll (withReturns [character]) = (reader.read character).returned := by
  rw [Text.withReturns_singleton]
  by_cases feed : character = '\n'
  · subst feed
    rw [if_pos rfl, readAll_returned_feed settled]
  · rw [if_neg feed, readAll_cons, readAll_nil, (respects_returned feed).read]

theorem readAll_returned (settled : reader.IsSettled) (noReturn : '\r' ∉ text) :
    reader.returned.readAll (withReturns text) = (reader.readAll text).returned := by
  induction text generalizing reader with
  | nil =>
      rfl
  | cons character rest inductionHypothesis =>
      rw [List.mem_cons, not_or] at noReturn
      have notReturn : character ≠ '\r' := Ne.symm noReturn.1
      rw [Text.withReturns_cons, readAll_append, readAll_returned_singleton settled notReturn,
        inductionHypothesis (settled.read notReturn) noReturn.2, readAll_cons]

theorem finish_returned (reader : Reader) :
    reader.returned.finish = reader.finish.map withReturns := by
  have closed : ∀ other : Reader,
      other.returned.closeWord.words = other.closeWord.words.map withReturns := by
    intro other
    rw [closeWord_returned]
    rfl
  obtain ⟨words, begun?, position⟩ := reader
  cases position with
  | doubleEscape =>
      have waited := push_returned (by decide : '\\' ≠ '\n') ⟨words, begun?, .doubleEscape⟩
      have pushed := closed (push ⟨words, begun?, .doubleEscape⟩ '\\')
      rw [← waited] at pushed
      exact pushed
  | plain | escape | escapedReturn | single | double =>
      exact closed _

end Reader

theorem words_withReturns {text : Text} (noReturn : '\r' ∉ text) :
    words (withReturns text) = (words text).map withReturns := by
  have settled : Reader.start.IsSettled := by
    simp [Reader.IsSettled, Reader.start]
  have read := Reader.readAll_returned settled noReturn
  rw [words, words, ← Reader.finish_returned, ← read]
  rfl

end CommandLine

namespace ContainerCommand

open CommandLine Text

variable {text : Text}

/-! ## Commands and clipboards -/

/-- Words without line feeds are the same with either line ending, and so is the command. -/
theorem parse_withReturns (noReturn : '\r' ∉ text) (noFeeds : ∀ word ∈ words text, '\n' ∉ word)
    (default : Protocol) :
    parse default (withReturns text) = parse default text := by
  have sameWords : words (withReturns text) = words text := by
    have sameEach : ∀ word ∈ words text, withReturns word = id word :=
      fun word member => withReturns_eq_self (noFeeds word member)
    rw [words_withReturns noReturn, List.map_congr_left sameEach, List.map_id]
  have sameFlags : Flags.ofCommandLine (withReturns text) = Flags.ofCommandLine text := by
    rw [Flags.ofCommandLine, Flags.ofCommandLine, sameWords]
  unfold parse
  rw [sameFlags]
  simp only [trim_withReturns_eq_nil_iff]

/-- The last line ending is taken away, and of every other one the line feed is kept. -/
theorem withoutReturns_withReturns (noReturn : '\r' ∉ text) :
    Clipboard.withoutReturns (withReturns text ++ ['\r', '\n']) = text := by
  have lines :
      (withReturns text ++ ['\r', '\n']).filter (fun character => character ≠ '\r') =
        text ++ ['\n'] := by
    rw [List.filter_append, filter_withReturns noReturn]
    rfl
  have cut : Text.dropSuffix? ['\n'] (text ++ ['\n']) = some text :=
    Text.dropSuffix?_eq_some_iff.mpr rfl
  rw [Clipboard.withoutReturns]
  simp only [lines, cut, Option.getD_some]

/-- Carriage returns before the line feeds of a line stand in its words where the line feeds do, so
that they change no command whose words hold none.  A clipboard that adds them and one more line
ending gives the same command as one that gives the text as it is. -/
theorem lineEndings_agree (noReturn : '\r' ∉ text) :
    words (withReturns text) = (words text).map withReturns ∧
    ((∀ word ∈ words text, '\n' ∉ word) →
      ∀ default, parse default (withReturns text) = parse default text) ∧
    Clipboard.withoutReturns (withReturns text ++ ['\r', '\n']) = text ∧
    ∀ (host otherHost : Host) (platform : Platform) (default : Protocol),
      Clipboard.runTool host Clipboard.powershell =
        .ok (withReturns text ++ ['\r', '\n']) →
      Clipboard.read otherHost platform = .ok text →
      (Clipboard.read host .windows).map (parse default) =
        (Clipboard.read otherHost platform).map (parse default) := by
  refine ⟨words_withReturns noReturn, parse_withReturns noReturn,
    withoutReturns_withReturns noReturn, ?_⟩
  intro host otherHost platform default written given
  rw [given, Clipboard.read, written, Except.map, withoutReturns_withReturns noReturn]

/-- A command on three lines, of which the first one goes on behind a backslash. -/
def threeLines : Text :=
  "docker run -d \\\n  -p 80:80 -e 'A=b c'\n  web\n".toList

/-- A system whose clipboard programs write a given text. -/
def hostWriting (text : Text) : Host where
  files := .empty
  base := .root
  environment := {}
  accountHome := none
  programs :=
    [ (Clipboard.powershell.program, { standardOutput := Utf8.encode text }),
      (Clipboard.xsel.program, { standardOutput := Utf8.encode text }) ]

theorem lineEndings_agree_threeLines :
    '\r' ∉ threeLines ∧ (∀ word ∈ words threeLines, '\n' ∉ word) ∧
      parse .tcp (withReturns threeLines) = parse .tcp threeLines ∧
      (Clipboard.read (hostWriting (withReturns threeLines ++ ['\r', '\n'])) .windows).map
          (parse .tcp) =
        (Clipboard.read (hostWriting threeLines) .linux).map (parse .tcp) := by
  have noReturn : '\r' ∉ threeLines := by decide
  have noFeeds : ∀ word ∈ words threeLines, '\n' ∉ word := by decide
  obtain ⟨_, sameCommand, _, sameClipboard⟩ := lineEndings_agree noReturn
  exact ⟨noReturn, noFeeds, sameCommand noFeeds .tcp, sameClipboard _ _ _ _ rfl rfl⟩

example : words (withReturns "'a\nb' \\\nc".toList) = ["a\r\nb".toList, ['c']] := by
  decide

end ContainerCommand

end RunManifest
