import RunManifest.Yaml.Property

/-!
Tokens: the indicators, properties and scalars of a text in order, with tokens of their own where
collections that are told by their indentation begin and end.

Whether a scalar is a key shows only at the colon after it. The lexer keeps the places where a key
may have begun, one for each level of brackets, and puts the tokens of a key there afterwards.
-/

namespace RunManifest.Yaml

/-- The tokens of a text. -/
inductive Token
  | directive (value : Directive)
  | documentStart
  | documentEnd
  | blockSequenceStart
  | blockMappingStart
  | blockEnd
  | flowSequenceStart
  | flowSequenceEnd
  | flowMappingStart
  | flowMappingEnd
  | entry
  | comma
  | key
  | value
  | reference (name : Text)
  | anchor (name : Text)
  | tag (form : TagForm)
  | scalar (content : Text) (isPlain : Bool)
deriving DecidableEq, Repr

/-- A place where a key may have begun. -/
structure KeyPlace where
  position : Nat
  offset : Nat
  line : Nat
  column : Nat
  isRequired : Bool
deriving Repr

/-- A lexer in the middle of a text. -/
structure Lexer where
  cursor : Cursor
  tokens : Array Token
  indent : Int
  outerIndents : List Int
  keyPlaces : List (Option KeyPlace)
  allowsKey : Bool

namespace Lexer

def start (text : Text) : Lexer where
  cursor := Cursor.start text
  tokens := #[]
  indent := -1
  outerIndents := []
  keyPlaces := [none]
  allowsKey := true

def inFlow (lexer : Lexer) : Bool :=
  1 < lexer.keyPlaces.length

def push (lexer : Lexer) (token : Token) : Lexer :=
  { lexer with tokens := lexer.tokens.push token }

def pushAt (lexer : Lexer) (token : Token) (cursor : Cursor) : Lexer :=
  { lexer with
    tokens := lexer.tokens.push token
    cursor }

def allowKey (lexer : Lexer) (allowed : Bool) : Lexer :=
  { lexer with allowsKey := allowed }

def dropKeyPlace (lexer : Lexer) : Except SyntaxFault Lexer :=
  match lexer.keyPlaces with
  | some place :: others =>
      if place.isRequired then .error .missingColon
      else .ok { lexer with keyPlaces := none :: others }
  | _ => .ok lexer

def markKeyPlace (lexer : Lexer) : Except SyntaxFault Lexer :=
  if lexer.allowsKey then do
    let cleared ← lexer.dropKeyPlace
    let place : KeyPlace :=
      { position := lexer.tokens.size
        offset := lexer.cursor.offset
        line := lexer.cursor.line
        column := lexer.cursor.column
        isRequired := !lexer.inFlow && lexer.indent == (lexer.cursor.column : Int) }
    return { cleared with keyPlaces := some place :: cleared.keyPlaces.tail }
  else
    .ok lexer

def keyLimit : Nat := 1024

def isStale (cursor : Cursor) (place : KeyPlace) : Bool :=
  place.line < cursor.line || place.offset + keyLimit < cursor.offset

def dropStalePlaces (lexer : Lexer) : Except SyntaxFault Lexer := do
  let places ← lexer.keyPlaces.mapM fun place? =>
    match place? with
    | none => return none
    | some place =>
        if isStale lexer.cursor place then
          if place.isRequired then throw .missingColon else return none
        else
          return some place
  return { lexer with keyPlaces := places }

/-- Begins a collection at a column, unless the lexer is between brackets or inside one there. Its
token goes to a position among the tokens, or to their end. -/
def indentTo (lexer : Lexer) (column : Nat) (position? : Option Nat) (token : Token) : Lexer :=
  if !lexer.inFlow && lexer.indent < (column : Int) then
    { lexer with
      tokens := lexer.tokens.insertIdxIfInBounds (position?.getD lexer.tokens.size) token
      indent := column
      outerIndents := lexer.indent :: lexer.outerIndents }
  else
    lexer

def endIndented (column : Int) (tokens : Array Token) (indent : Int) :
    List Int → Array Token × Int × List Int
  | [] => (tokens, indent, [])
  | outer :: others =>
      if column < indent then
        endIndented column (tokens.push .blockEnd) outer others
      else
        (tokens, indent, outer :: others)

/-- Ends the collections that are indented further than a column, unless the lexer is between
brackets. -/
def dedentTo (lexer : Lexer) (column : Int) : Lexer :=
  if lexer.inFlow then
    lexer
  else
    let (tokens, indent, outerIndents) :=
      endIndented column lexer.tokens lexer.indent lexer.outerIndents
    { lexer with tokens, indent, outerIndents }

/-- The place of the next token, and whether a key may begin there. Tabs are no indentation where a
key may begin. -/
def skipGap (inFlow allowsKey : Bool) (cursor : Cursor) : Cursor × Bool :=
  let afterMark :=
    if cursor.column = 0 ∧ cursor.sees byteOrderMark then cursor.skip 1 else cursor
  let afterBlanks := afterMark.skipWhile fun character =>
    character == ' ' || ((inFlow || !allowsKey) && character == '\t')
  let lineEnd :=
    if afterBlanks.sees '#' then
      afterBlanks.skipWhile fun character => !isBreak character
    else
      afterBlanks
  if _broken : lineEnd.atBreak then
    skipGap inFlow (allowsKey || !inFlow) lineEnd.takeBreak.2
  else
    (lineEnd, allowsKey)
termination_by cursor.rest.length
decreasing_by
  have := Cursor.length_takeBreak_lt _broken
  grind [Cursor.length_skip_le, Cursor.length_skipWhile_le]

def documentMark (lexer : Lexer) (token : Token) : Except SyntaxFault Lexer := do
  let lexer ← (lexer.dedentTo (-1)).dropKeyPlace
  return (lexer.pushAt token (lexer.cursor.skip 3)).allowKey false

def directiveToken (lexer : Lexer) : Except SyntaxFault Lexer := do
  let lexer ← (lexer.dedentTo (-1)).dropKeyPlace
  let (value, next) ← directive lexer.cursor
  return (lexer.pushAt (.directive value) next).allowKey false

/-- An opening bracket, which begins a new level. -/
def openBracket (lexer : Lexer) (token : Token) : Except SyntaxFault Lexer := do
  let lexer ← lexer.markKeyPlace
  let deeper := { lexer with keyPlaces := none :: lexer.keyPlaces }
  return (deeper.pushAt token (lexer.cursor.skip 1)).allowKey true

/-- A closing bracket, which ends a level if there is one. -/
def closeBracket (lexer : Lexer) (token : Token) : Except SyntaxFault Lexer := do
  let lexer ← lexer.dropKeyPlace
  let places := if lexer.inFlow then lexer.keyPlaces.tail else lexer.keyPlaces
  let shallower := { lexer with keyPlaces := places }
  return (shallower.pushAt token (lexer.cursor.skip 1)).allowKey false

def commaToken (lexer : Lexer) : Except SyntaxFault Lexer := do
  let lexer ← lexer.dropKeyPlace
  return (lexer.pushAt .comma (lexer.cursor.skip 1)).allowKey true

def entryToken (lexer : Lexer) : Except SyntaxFault Lexer := do
  if !lexer.inFlow && !lexer.allowsKey then
    throw .misplacedIndicator
  let lexer ← (lexer.indentTo lexer.cursor.column none .blockSequenceStart).dropKeyPlace
  return (lexer.pushAt .entry (lexer.cursor.skip 1)).allowKey true

def keyToken (lexer : Lexer) : Except SyntaxFault Lexer := do
  if !lexer.inFlow && !lexer.allowsKey then
    throw .misplacedIndicator
  let lexer ← (lexer.indentTo lexer.cursor.column none .blockMappingStart).dropKeyPlace
  return (lexer.pushAt .key (lexer.cursor.skip 1)).allowKey !lexer.inFlow

/-- A colon before a value. If a key has begun before it, its tokens go there. -/
def valueToken (lexer : Lexer) : Except SyntaxFault Lexer :=
  match lexer.keyPlaces with
  | some place :: others =>
      let withKey :=
        { lexer with
          tokens := lexer.tokens.insertIdxIfInBounds place.position .key
          keyPlaces := none :: others }
      let indented := withKey.indentTo place.column (some place.position) .blockMappingStart
      .ok ((indented.pushAt .value (lexer.cursor.skip 1)).allowKey false)
  | _ =>
      if !lexer.inFlow && !lexer.allowsKey then
        .error .misplacedIndicator
      else
        let indented := lexer.indentTo lexer.cursor.column none .blockMappingStart
        .ok ((indented.pushAt .value (lexer.cursor.skip 1)).allowKey !lexer.inFlow)

def anchorToken (lexer : Lexer) (token : Text → Token) : Except SyntaxFault Lexer := do
  let lexer ← lexer.markKeyPlace
  let (name, next) ← anchorName lexer.cursor
  return (lexer.pushAt (token name) next).allowKey false

def tagToken (lexer : Lexer) : Except SyntaxFault Lexer := do
  let lexer ← lexer.markKeyPlace
  let (form, next) ← tagProperty lexer.inFlow lexer.cursor
  return (lexer.pushAt (.tag form) next).allowKey false

def blockToken (lexer : Lexer) (isFolded : Bool) : Except SyntaxFault Lexer := do
  let lexer ← lexer.dropKeyPlace
  let (content, next) ← blockScalar isFolded lexer.indent lexer.cursor
  return (lexer.pushAt (.scalar content false) next).allowKey true

def quotedToken (lexer : Lexer) (quote : Char) : Except SyntaxFault Lexer := do
  let lexer ← lexer.markKeyPlace
  let (content, next) ← quotedScalar quote lexer.cursor
  return (lexer.pushAt (.scalar content false) next).allowKey false

/-- A plain scalar. After a line break a key may begin again. -/
def plainToken (lexer : Lexer) : Except SyntaxFault Lexer := do
  let lexer ← lexer.markKeyPlace
  let read ← plainScalar lexer.inFlow (lexer.indent + 1) lexer.cursor
  return (lexer.pushAt (.scalar read.content true) read.cursor).allowKey read.isBroken

def startsPlain (lexer : Lexer) (character : Char) : Bool :=
  let after? := lexer.cursor.at? 1
  (!isGap (some character) && character ∉ indicators && character ∉ "-?:".toList) ||
    (character == '-' && !after?.any isInlineBlank) ||
    (!lexer.inFlow && (character == '?' || character == ':') && !isGap after?)

/-- Reads the token that begins with a character, which stands at the cursor. -/
def readToken (lexer : Lexer) (character : Char) : Except SyntaxFault Lexer :=
  let gapFollows := isGap (lexer.cursor.at? 1)
  if lexer.cursor.column = 0 ∧ character = '%' then lexer.directiveToken
  else if lexer.cursor.atMark "---".toList then lexer.documentMark .documentStart
  else if lexer.cursor.atMark "...".toList then lexer.documentMark .documentEnd
  else if character = '[' then lexer.openBracket .flowSequenceStart
  else if character = '\x7b' then lexer.openBracket .flowMappingStart
  else if character = ']' then lexer.closeBracket .flowSequenceEnd
  else if character = '\x7d' then lexer.closeBracket .flowMappingEnd
  else if character = ',' then lexer.commaToken
  else if character = '-' ∧ gapFollows then lexer.entryToken
  else if character = '?' ∧ (lexer.inFlow ∨ gapFollows) then lexer.keyToken
  else if character = ':' ∧ (lexer.inFlow ∨ gapFollows) then lexer.valueToken
  else if character = '*' then lexer.anchorToken .reference
  else if character = '&' then lexer.anchorToken .anchor
  else if character = '!' then lexer.tagToken
  else if character = '|' ∧ !lexer.inFlow then lexer.blockToken false
  else if character = '>' ∧ !lexer.inFlow then lexer.blockToken true
  else if character = '\'' ∨ character = '"' then lexer.quotedToken character
  else if lexer.startsPlain character then lexer.plainToken
  else .error .strayCharacter

/-! ## All tokens -/

def finish (lexer : Lexer) : Except SyntaxFault (List Token) := do
  let lexer ← (lexer.dedentTo (-1)).dropKeyPlace
  return lexer.tokens.toList

/-- Reads the rest of the text. Every token takes at least one character. -/
def readAll (lexer : Lexer) : Except SyntaxFault (List Token) := do
  let (cursor, allowsKey) := skipGap lexer.inFlow lexer.allowsKey lexer.cursor
  let here ← { lexer with cursor, allowsKey }.dropStalePlaces
  let ready := here.dedentTo here.cursor.column
  match ready.cursor.next? with
  | none => ready.finish
  | some character =>
      let after ← ready.readToken character
      if after.cursor.rest.length < lexer.cursor.rest.length then
        after.readAll
      else
        throw .strayCharacter
termination_by lexer.cursor.rest.length

end Lexer

def tokens (text : Text) : Except SyntaxFault (List Token) :=
  if text.all isAllowed then (Lexer.start text).readAll else .error .forbiddenCharacter

end RunManifest.Yaml
