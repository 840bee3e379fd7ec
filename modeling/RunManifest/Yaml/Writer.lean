import RunManifest.Yaml.Style

/-!
Documents and their text in block style.

Mappings are indented by two columns and sequences inside mappings not at all. Lines are never
folded, and keys keep their order.
-/

namespace RunManifest.Yaml

inductive Value
  | text (content : Text)
  | number (value : Nat)
  | list (items : List Value)
  | mapping (fields : List (Text × Value))

def pad (indent : Nat) : Text :=
  List.replicate indent ' '

/-- A text between single quotes, in which a quote is written twice. What follows a line break is
indented. -/
def singleQuotedBody (indent : Nat) : (afterBreak : Bool) → Text → Text
  | afterBreak, [] => if afterBreak then pad indent else []
  | afterBreak, character :: rest =>
      if isBreak character then
        character :: singleQuotedBody indent true rest
      else
        (if afterBreak then pad indent else []) ++
          (if character = '\'' then ['\'', '\''] else [character]) ++
          singleQuotedBody indent false rest

def hexadecimal (width code : Nat) : Text :=
  let digits := (Nat.toDigits 16 code).map Char.toUpper
  List.replicate (width - digits.length) '0' ++ digits

def namedEscapes : List (Char × Char) :=
  [('\x00', '0'), ('\x07', 'a'), ('\x08', 'b'), ('\t', 't'), ('\n', 'n'), ('\x0b', 'v'),
    ('\x0c', 'f'), ('\r', 'r'), ('\x1b', 'e'), ('"', '"'), ('\\', '\\'), ('\u0085', 'N'),
    ('\u2028', 'L'), ('\u2029', 'P')]

def doubleQuotedCharacter (character : Char) : Text :=
  match namedEscapes.lookup character with
  | some name => ['\\', name]
  | none =>
      let code := character.toNat
      if isPrintable character then [character]
      else if code < 0x100 then '\\' :: 'x' :: hexadecimal 2 code
      else if code < 0x10000 then '\\' :: 'u' :: hexadecimal 4 code
      else '\\' :: 'U' :: hexadecimal 8 code

/-- The marks after the bar of a literal block. A `2` says that the text begins with a space or a
line break; `-` says that it does not end its last line, and `+` that it ends with an empty one. -/
def literalMarks (text : Text) : Text :=
  (if text.head?.any fun character => character == ' ' || isBreak character then ['2'] else []) ++
    match text.reverse with
    | [] => ['-']
    | last :: others =>
        if !isBreak last then ['-']
        else if others.head?.all isBreak then ['+']
        else []

/-- The lines of a literal block. Lines that are not empty are indented. -/
def literalBody (indent : Nat) : (afterBreak : Bool) → Text → Text
  | _, [] => []
  | afterBreak, character :: rest =>
      if isBreak character then
        character :: literalBody indent true rest
      else
        (if afterBreak then pad indent else []) ++ character :: literalBody indent false rest

def endsLine (text : Text) : Bool :=
  text.getLast?.any isBreak

/-- A string and the end of its line. Its further lines, if any, stand at `indent`. -/
def scalarText (indent : Nat) (text : Text) : Text :=
  match style text with
  | .plain => text ++ ['\n']
  | .singleQuoted => '\'' :: singleQuotedBody indent false text ++ ['\'', '\n']
  | .doubleQuoted => '"' :: text.flatMap doubleQuotedCharacter ++ ['"', '\n']
  | .literal =>
      '|' :: literalMarks text ++ '\n' :: literalBody indent true text ++
        if endsLine text then [] else ['\n']

/-! ## Collections -/

mutual

/-- What follows the colon of a key at `indent`. -/
def afterKey (indent : Nat) : Value → Text
  | .text content => ' ' :: scalarText (indent + 2) content
  | .number value => ' ' :: Text.decimal value ++ ['\n']
  | .list [] => " []\n".toList
  | .list (first :: rest) => '\n' :: pad indent ++ itemsText indent (first :: rest)
  | .mapping [] => " \x7b\x7d\n".toList
  | .mapping (first :: rest) =>
      '\n' :: pad (indent + 2) ++ fieldsText (indent + 2) (first :: rest)

/-- What follows the dash of an item whose content stands at `indent`. -/
def afterDash (indent : Nat) : Value → Text
  | .text content => ' ' :: scalarText indent content
  | .number value => ' ' :: Text.decimal value ++ ['\n']
  | .list [] => " []\n".toList
  | .list (first :: rest) => ' ' :: itemsText indent (first :: rest)
  | .mapping [] => " \x7b\x7d\n".toList
  | .mapping (first :: rest) => ' ' :: fieldsText indent (first :: rest)

/-- The items of a sequence at `indent`, of which the first line is indented already. -/
def itemsText (indent : Nat) : List Value → Text
  | [] => []
  | [item] => '-' :: afterDash (indent + 2) item
  | item :: next :: rest =>
      '-' :: afterDash (indent + 2) item ++ pad indent ++ itemsText indent (next :: rest)

/-- The fields of a mapping at `indent`, of which the first line is indented already. -/
def fieldsText (indent : Nat) : List (Text × Value) → Text
  | [] => []
  | [(key, value)] => key ++ ':' :: afterKey indent value
  | (key, value) :: next :: rest =>
      key ++ ':' :: afterKey indent value ++ pad indent ++ fieldsText indent (next :: rest)

end

def documentText (fields : List (Text × Value)) : Text :=
  fieldsText 0 fields

end RunManifest.Yaml
