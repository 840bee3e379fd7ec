import RunManifest.Text

/-!
Arguments of the program: a command with its options.

Options are read one after the other, and the first that does not fit ends the reading. A short
option may share its word with others, and takes its value from the rest of the word, with or
without `=`, or from the next word; a long one takes it after `=` or from the next word.
-/

namespace RunManifest.Arguments

/-- Where the text of a command line is to come from. -/
structure SourceOptions where
  text? : Option Text
  usesInput : Bool
deriving DecidableEq, Repr

/-- What the program is asked to do. -/
inductive Request
  | generate (source : SourceOptions) (outputDirectory? : Option Text) (isDryRun : Bool)
  | inspect (source : SourceOptions)
  | version
deriving DecidableEq, Repr

/-- Why there is no request. -/
inductive Refusal
  | help
  | usage
deriving DecidableEq, Repr

/-- What an option sets. -/
inductive Parameter
  | help
  | verbose
  | text
  | input
  | outputDirectory
  | dryRun
deriving DecidableEq, Repr

namespace Parameter

def longName : Parameter → Text
  | help => "help".toList
  | verbose => "verbose".toList
  | text => "command".toList
  | input => "stdin".toList
  | outputDirectory => "output-dir".toList
  | dryRun => "dry-run".toList

/-- The letter of the option, if it has one. -/
def letter? : Parameter → Option Char
  | help => some 'h'
  | verbose => some 'v'
  | text => some 'c'
  | input => none
  | outputDirectory => some 'o'
  | dryRun => none

def takesValue : Parameter → Bool
  | text => true
  | outputDirectory => true
  | _ => false

def accepts : Parameter → Text → Bool
  | outputDirectory, value => value ≠ []
  | _, _ => true

end Parameter

abbrev Given := List (Parameter × Text)

/-- Adds an option, unless it has been given before or cannot have the value. -/
def give (given : Given) (parameter : Parameter) (value : Text) : Except Refusal Given :=
  if parameter = .help then .error .help
  else if (given.lookup parameter).isSome ∨ !parameter.accepts value then .error .usage
  else .ok ((parameter, value) :: given)

def isValue (word : Text) : Bool :=
  word = ['-'] || word.head? ≠ some '-'

/-- The value of an option: the one in its own word, or else the next word, and the words after
it. -/
def takeValue (own? : Option Text) (rest : List Text) : Except Refusal (Text × List Text) :=
  match own?, rest with
  | some value, rest => .ok (value, rest)
  | none, next :: rest => if isValue next then .ok (next, rest) else .error .usage
  | none, [] => .error .usage

def readLong (allowed : List Parameter) (given : Given) (body : Text) (rest : List Text) :
    Except Refusal (Given × List Text) := do
  let (name, own?) :=
    match Text.splitOnce '=' body with
    | some (name, value) => (name, some value)
    | none => (body, none)
  match allowed.find? fun parameter => parameter.longName = name with
  | none => throw .usage
  | some parameter =>
      if parameter.takesValue then
        let (value, rest) ← takeValue own? rest
        return (← give given parameter value, rest)
      else if own?.isSome then
        throw .usage
      else
        return (← give given parameter [], rest)

def readShort (allowed : List Parameter) (given : Given) (rest : List Text) :
    Text → Except Refusal (Given × List Text)
  | [] => .ok (given, rest)
  | letter :: letters =>
      match allowed.find? fun parameter => parameter.letter? = some letter with
      | none => .error .usage
      | some parameter =>
          if parameter.takesValue then do
            let own? :=
              match letters with
              | [] => none
              | '=' :: value => some value
              | value => some value
            let (value, rest) ← takeValue own? rest
            return (← give given parameter value, rest)
          else do
            readShort allowed (← give given parameter []) rest letters

/-- Reads the option in a word, which may take the next word as well. -/
def readOption (allowed : List Parameter) (given : Given) (word : Text) (rest : List Text) :
    Except Refusal (Given × List Text) :=
  match word with
  | '-' :: '-' :: body => readLong allowed given body rest
  | _ => readShort allowed given rest word.tail

/-- Reads all words as options. After `--` no further word may come. -/
def readOptions (allowed : List Parameter) (given : Given) (words : List Text) :
    Except Refusal Given :=
  match words with
  | [] => .ok given
  | word :: rest =>
      if word = "--".toList then
        if rest = [] then .ok given else .error .usage
      else if isValue word then
        .error .usage
      else
        match readOption allowed given word rest with
        | .error refusal => .error refusal
        | .ok (given, others) =>
            if others.length ≤ rest.length then readOptions allowed given others
            else .error .usage
termination_by words.length

/-! ## Commands -/

def common : List Parameter := [.help, .verbose]

def sourceOptions (given : Given) : Except Refusal SourceOptions :=
  let text? := given.lookup .text
  let usesInput := (given.lookup .input).isSome
  if text?.isSome ∧ usesInput then .error .usage else .ok { text?, usesInput }

/-- Reads the words after `generate`. -/
def readGenerate (words : List Text) : Except Refusal Request := do
  let given ← readOptions (common ++ [.text, .input, .outputDirectory, .dryRun]) [] words
  let source ← sourceOptions given
  return .generate source (given.lookup .outputDirectory) (given.lookup .dryRun).isSome

/-- Reads the words after `inspect`. -/
def readInspect (words : List Text) : Except Refusal Request := do
  let given ← readOptions (common ++ [.text, .input]) [] words
  return .inspect (← sourceOptions given)

/-- Reads the words after `version`. -/
def readVersion (words : List Text) : Except Refusal Request := do
  let _ ← readOptions common [] words
  return .version

def commands : List (Text × (List Text → Except Refusal Request)) :=
  [("generate".toList, readGenerate), ("inspect".toList, readInspect),
    ("version".toList, readVersion)]

/-- Reads the words after `help`, which may name a command. -/
def readHelp (words : List Text) : Refusal :=
  match words with
  | [] => .help
  | [name] =>
      if name = "help".toList ∨ (commands.lookup name).isSome then .help else .usage
  | _ => .usage

/-- Reads the arguments of the program: the options of all commands, a command, and its own. -/
def readFrom (given : Given) (words : List Text) : Except Refusal Request :=
  match words with
  | [] => .error .usage
  | word :: rest =>
      if isValue word then
        match commands.lookup word with
        | some read => read rest
        | none => if word = "help".toList then .error (readHelp rest) else .error .usage
      else
        match readOption common given word rest with
        | .error refusal => .error refusal
        | .ok (given, others) =>
            if others.length ≤ rest.length then readFrom given others else .error .usage
termination_by words.length

def parse (words : List Text) : Except Refusal Request :=
  readFrom [] words

end RunManifest.Arguments
