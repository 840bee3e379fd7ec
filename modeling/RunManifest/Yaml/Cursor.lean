import RunManifest.Yaml.Style

/-!
A place in a text that is being read, with its line and column. Moving on makes what is left
shorter, which is why readers come to an end.
-/

namespace RunManifest.Yaml

/-- What is wrong with a text that should be a document. -/
inductive SyntaxFault
  | forbiddenCharacter
  | strayCharacter
  | misplacedIndicator
  | missingColon
  | tabInIndentation
  | openQuote
  | unknownEscape
  | badBlockHeader
  | badAnchor
  | badTag
  | badDirective
  | unexpectedToken
  | unknownAnchor
  | severalDocuments
deriving DecidableEq, Repr

namespace SyntaxFault

def message : SyntaxFault → Text
  | forbiddenCharacter => "control characters are not allowed".toList
  | strayCharacter => "found a character that cannot start any token".toList
  | misplacedIndicator => "found an indicator that is not allowed here".toList
  | missingColon => "could not find the colon of a key".toList
  | tabInIndentation => "found a tab where indentation is expected".toList
  | openQuote => "found no end of a quoted text".toList
  | unknownEscape => "found an unknown escape".toList
  | badBlockHeader => "found a block header that cannot be read".toList
  | badAnchor => "found an anchor without a name".toList
  | badTag => "found a tag that cannot be read".toList
  | badDirective => "found a directive that cannot be read".toList
  | unexpectedToken => "found a token that does not fit".toList
  | unknownAnchor => "found an alias of an unknown anchor".toList
  | severalDocuments => "found more than one document".toList

end SyntaxFault

def isInlineBlank (character : Char) : Bool :=
  character == ' ' || character == '\t'

def isGap (character? : Option Char) : Bool :=
  character?.all fun character => isInlineBlank character || isBreak character

def isNameCharacter (character : Char) : Bool :=
  character.isAlphanum || character == '_' || character == '-'

def byteOrderMark : Char := '\uFEFF'

def isAllowed (character : Char) : Bool :=
  isPrintable character || character == '\t' || character == '\r' || character == '\u0085' ||
    character == byteOrderMark

/-! ## Cursors -/

/-- A place in a text: what is left of it, how many bytes came before, and the line and the column,
which counts characters, both from zero. -/
structure Cursor where
  rest : Text
  offset : Nat
  line : Nat
  column : Nat
deriving Repr

namespace Cursor

def byteCount (text : Text) : Nat :=
  text.foldl (fun count character => count + character.utf8Size) 0

def start (text : Text) : Cursor where
  rest := text
  offset := 0
  line := 0
  column := 0

def next? (cursor : Cursor) : Option Char :=
  cursor.rest.head?

def at? (cursor : Cursor) (count : Nat) : Option Char :=
  cursor.rest[count]?

def sees (cursor : Cursor) (character : Char) : Bool :=
  cursor.next? == some character

def skip (cursor : Cursor) (count : Nat) : Cursor :=
  { cursor with
    rest := cursor.rest.drop count
    offset := cursor.offset + byteCount (cursor.rest.take count)
    column := cursor.column + count }

def span (cursor : Cursor) (continues : Char → Bool) : Text × Cursor :=
  let found := cursor.rest.takeWhile continues
  (found, cursor.skip found.length)

def skipWhile (cursor : Cursor) (continues : Char → Bool) : Cursor :=
  (cursor.span continues).2

def atBreak (cursor : Cursor) : Bool :=
  cursor.next?.any isBreak

def breakCharacter (character : Char) : Char :=
  if character = '\u2028' ∨ character = '\u2029' then character else '\n'

def takeBreak (cursor : Cursor) : Text × Cursor :=
  match cursor.rest with
  | [] => ([], cursor)
  | first :: others =>
      let doubled := first == '\r' && others.head? == some '\n'
      let rest := if doubled then others.tail else others
      let width := first.utf8Size + if doubled then 1 else 0
      ([breakCharacter first], ⟨rest, cursor.offset + width, cursor.line + 1, 0⟩)

def atMark (cursor : Cursor) (mark : Text) : Bool :=
  cursor.column == 0 && mark.isPrefixOf cursor.rest && isGap (cursor.at? mark.length)

def atAnyMark (cursor : Cursor) : Bool :=
  cursor.atMark "---".toList || cursor.atMark "...".toList

theorem length_skip_le (cursor : Cursor) (count : Nat) :
    (cursor.skip count).rest.length ≤ cursor.rest.length := by
  simp [skip]

theorem length_skip_lt
    {cursor : Cursor} (more : cursor.rest ≠ []) (count : Nat) (forward : 0 < count) :
    (cursor.skip count).rest.length < cursor.rest.length := by
  have := List.length_pos_iff.mpr more
  simp [skip]
  omega

theorem length_skipWhile_le (cursor : Cursor) (continues : Char → Bool) :
    (cursor.skipWhile continues).rest.length ≤ cursor.rest.length :=
  length_skip_le _ _

theorem length_takeBreak_lt
    {cursor : Cursor} (broken : cursor.atBreak = true) :
    cursor.takeBreak.2.rest.length < cursor.rest.length := by
  cases found : cursor.rest with
  | nil => simp [atBreak, next?, found] at broken
  | cons first others =>
      have tailShorter : others.tail.length ≤ others.length := by simp
      simp only [takeBreak, found, List.length_cons]
      split <;> omega

end Cursor

end RunManifest.Yaml
