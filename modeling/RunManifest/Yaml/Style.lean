import RunManifest.Yaml.Reading

/-!
The style in which a string is written: plain, in single or double quotes, or as a literal block.
A style is wished for first, and given up for a safer one if the text does not allow it.
-/

namespace RunManifest.Yaml

def isBreak (character : Char) : Bool :=
  character == '\n' || character == '\r' || character == '\u0085' ||
    character == '\u2028' || character == '\u2029'

def isSeparator (character : Char) : Bool :=
  character == ' ' || character == '\t' || character == '\x00' || isBreak character

def isPrintable (character : Char) : Bool :=
  let code := character.toNat
  code == 0x0A || (0x20 ≤ code && code ≤ 0x7E) || (0xA0 ≤ code && code ≤ 0xD7FF) ||
    (0xE000 ≤ code && code ≤ 0xFFFD && code != 0xFEFF) || 0x10000 ≤ code

def indicators : List Char :=
  "#,[]\x7b\x7d&*!|>'\"%@\x60".toList

def hasPair (first second : Char → Bool) : Text → Bool
  | [] => false
  | [_] => false
  | left :: right :: rest =>
      (first left && second right) || hasPair first second (right :: rest)

def beginsWithMark (text : Text) : Bool :=
  (Text.dropPrefix? "---".toList text).isSome || (Text.dropPrefix? "...".toList text).isSome

def beginsWithIndicator : Text → Bool
  | [] => false
  | first :: rest =>
      first ∈ indicators ||
        ((first == '?' || first == ':' || first == '-') && rest.head?.all isSeparator)

def hasKeyMark (text : Text) : Bool :=
  text.getLast? == some ':' || hasPair (· == ':') isSeparator text

def hasCommentMark (text : Text) : Bool :=
  hasPair isSeparator (· == '#') text

def hasOuterSpace (text : Text) : Bool :=
  text.head?.any isEdge || text.getLast?.any isEdge
where
  isEdge (character : Char) : Bool :=
    character == ' ' || isBreak character

/-! ## Styles -/

/-- The styles of a scalar. -/
inductive Style
  | plain
  | singleQuoted
  | doubleQuoted
  | literal
deriving DecidableEq, Repr

def allowsPlain (text : Text) : Bool :=
  !beginsWithMark text && !beginsWithIndicator text && !hasKeyMark text &&
    !hasCommentMark text && !hasOuterSpace text && !text.any isBreak && text.all isPrintable

def allowsSingleQuotes (text : Text) : Bool :=
  !hasPair isBreak (· == ' ') text && !hasPair (· == ' ') isBreak text && text.all isPrintable

def allowsLiteral (text : Text) : Bool :=
  text.getLast? ≠ some ' ' && !hasPair (· == ' ') isBreak text && text.all isPrintable

/-- The style in which a text is written. A text of several lines is wished for as a literal block,
one that would be read as something else in single quotes, and any other plain. -/
def style (text : Text) : Style :=
  if '\n' ∈ text then
    if allowsLiteral text then .literal else .doubleQuoted
  else if !needsQuotes text && allowsPlain text then
    .plain
  else if allowsSingleQuotes text then
    .singleQuoted
  else
    .doubleQuoted

end RunManifest.Yaml
