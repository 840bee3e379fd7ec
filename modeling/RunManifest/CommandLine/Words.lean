import RunManifest.Text

/-!
Words of a command line. Blanks separate words; quotes and backslashes take their meaning away.

The reader looks at one character at a time and keeps a `Reader` state, so the words of a joined
text are found by going on from the state after its first part (`readAll_append`).

A line calls a container runtime with words such as `sudo docker container run`. What follows them
(`dropInvocation`) are the flags and the image.
-/

namespace RunManifest.CommandLine

/-- Where a reader of words stands between two characters. -/
inductive Position
  | plain
  | escape
  | escapedReturn
  | single
  | double
  | doubleEscape
deriving DecidableEq, Repr

/-- The words that are complete, the word that has begun, and the position. A word that has begun
may still be empty: quotes begin one. -/
structure Reader where
  words : List Text
  current? : Option Text
  position : Position
deriving DecidableEq, Repr

namespace Reader

def start : Reader where
  words := []
  current? := none
  position := .plain

def push (reader : Reader) (character : Char) : Reader :=
  { reader with current? := some (reader.current?.getD [] ++ [character]) }

/-- Begins a word, unless one has begun. -/
def openWord (reader : Reader) : Reader :=
  { reader with current? := some (reader.current?.getD []) }

/-- Completes the word that has begun, if any. -/
def closeWord (reader : Reader) : Reader :=
  { reader with
    words := reader.words ++ reader.current?.toList
    current? := none }

def moveTo (reader : Reader) (position : Position) : Reader :=
  { reader with position := position }

def readPlain (reader : Reader) (character : Char) : Reader :=
  if character = '\'' then
    reader.openWord.moveTo .single
  else if character = '"' then
    reader.openWord.moveTo .double
  else if character = '\\' then
    reader.moveTo .escape
  else if Text.isBlank character then
    reader.closeWord.moveTo .plain
  else
    (reader.push character).moveTo .plain

def readDouble (reader : Reader) (character : Char) : Reader :=
  if character = '"' then
    reader.moveTo .plain
  else if character = '\\' then
    reader.moveTo .doubleEscape
  else
    (reader.push character).moveTo .double

/-- Reads one character. Outside quotes a backslash keeps the next character as it is, except that
a line break after it disappears. Between double quotes it does so only before a double quote or a
backslash, and stands for itself otherwise. Between single quotes it stands for itself. -/
def read (reader : Reader) (character : Char) : Reader :=
  match reader.position with
  | .plain => reader.readPlain character
  | .escape =>
      if character = '\n' then
        reader.moveTo .plain
      else if character = '\r' then
        reader.moveTo .escapedReturn
      else
        (reader.push character).moveTo .plain
  | .escapedReturn =>
      if character = '\n' then
        reader.moveTo .plain
      else
        reader.readPlain character
  | .single =>
      if character = '\'' then
        reader.moveTo .plain
      else
        reader.push character
  | .double => reader.readDouble character
  | .doubleEscape =>
      if character = '"' ∨ character = '\\' then
        (reader.push character).moveTo .double
      else
        (reader.push '\\').readDouble character

def readAll (reader : Reader) (text : Text) : Reader :=
  text.foldl read reader

/-- The words when the text ends where the reader stands: an open quote ends with the text, a
backslash that waits between double quotes stands for itself, and one outside quotes is dropped. -/
def finish (reader : Reader) : List Text :=
  match reader.position with
  | .doubleEscape => (reader.push '\\').closeWord.words
  | _ => reader.closeWord.words

@[simp]
theorem readAll_nil (reader : Reader) :
    reader.readAll [] = reader := rfl

@[simp]
theorem readAll_cons
    (reader : Reader) (character : Char) (text : Text) :
    reader.readAll (character :: text) =
      (reader.read character).readAll text := rfl

theorem readAll_append
    (reader : Reader) (first second : Text) :
    reader.readAll (first ++ second) =
      (reader.readAll first).readAll second := by
  simp [readAll]

end Reader

def words (text : Text) : List Text :=
  (Reader.start.readAll text).finish

/-- The runtimes whose `run` command is understood. -/
def runtimes : List Text :=
  ["docker".toList, "podman".toList]

/-- The name of a program without its directory and without one ending `.exe`. -/
def programName (word : Text) : Text :=
  let name := Text.afterLast (fun character => character == '/' || character == '\\') word
  (Text.dropSuffix? ".exe".toList name).getD name

def isRuntime (word : Text) : Bool :=
  runtimes.contains (programName word)

/-- The words after `expected`, if they begin with it, and all of them otherwise. -/
def dropWord (expected : Text) : List Text → List Text
  | [] => []
  | first :: rest => if first = expected then rest else first :: rest

/-- The words of a command line after the call of the runtime. Of a line that calls no runtime
only a leading `sudo` is dropped. -/
def dropInvocation (words : List Text) : List Text :=
  match dropWord "sudo".toList words with
  | [] => []
  | program :: arguments =>
      if isRuntime program then
        dropWord "run".toList (dropWord "container".toList arguments)
      else
        program :: arguments

end RunManifest.CommandLine
