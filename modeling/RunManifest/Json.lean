import RunManifest.Text

/-!
JSON texts with one member a line, indented by two spaces.
-/

namespace RunManifest.Json

/-- The values of JSON that are written. -/
inductive Value
  | null
  | boolean (value : Bool)
  | number (value : Nat)
  | text (content : Text)
  | list (items : List Value)
  | object (fields : List (Text × Value))

def namedEscapes : List (Char × Char) :=
  [('"', '"'), ('\\', '\\'), ('\x08', 'b'), ('\x0c', 'f'), ('\n', 'n'), ('\r', 'r'), ('\t', 't')]

def characterText (character : Char) : Text :=
  match namedEscapes.lookup character with
  | some letter => ['\\', letter]
  | none =>
      if character.toNat < 0x20 then
        let digits := Nat.toDigits 16 character.toNat
        "\\u".toList ++ List.replicate (4 - digits.length) '0' ++ digits
      else
        [character]

def quotedText (content : Text) : Text :=
  '"' :: content.flatMap characterText ++ ['"']

def newLine (indent : Nat) : Text :=
  '\n' :: List.replicate indent ' '

mutual

def valueText (indent : Nat) : Value → Text
  | .null => "null".toList
  | .boolean true => "true".toList
  | .boolean false => "false".toList
  | .number value => Text.decimal value
  | .text content => quotedText content
  | .list [] => "[]".toList
  | .list (first :: rest) =>
      '[' :: itemsText (indent + 2) (first :: rest) ++ newLine indent ++ [']']
  | .object [] => "\x7b\x7d".toList
  | .object (first :: rest) =>
      '\x7b' :: fieldsText (indent + 2) (first :: rest) ++ newLine indent ++ ['\x7d']

def itemsText (indent : Nat) : List Value → Text
  | [] => []
  | [item] => newLine indent ++ valueText indent item
  | item :: next :: rest =>
      newLine indent ++ valueText indent item ++ ',' :: itemsText indent (next :: rest)

def fieldsText (indent : Nat) : List (Text × Value) → Text
  | [] => []
  | [(name, value)] =>
      newLine indent ++ quotedText name ++ ": ".toList ++ valueText indent value
  | (name, value) :: next :: rest =>
      newLine indent ++ quotedText name ++ ": ".toList ++ valueText indent value ++
        ',' :: fieldsText indent (next :: rest)

end

def Value.render (value : Value) : Text :=
  valueText 0 value

end RunManifest.Json
