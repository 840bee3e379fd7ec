import RunManifest.Yaml.Cursor

/-!
Reading scalars: quoted, plain, and in blocks. Each reader starts at the first character of the
scalar and gives its content with the place after it.
-/

namespace RunManifest.Yaml

/-- The blanks and line breaks between two parts of a scalar that may go over several lines. -/
structure Folding where
  spaces : Text := []
  firstBreak : Text := []
  moreBreaks : Text := []
  isBroken : Bool := false
deriving Repr

namespace Folding

/-- Adds a blank, which only counts before the first line break. -/
def addBlank (folding : Folding) (character : Char) : Folding :=
  if folding.isBroken then folding
  else { folding with spaces := folding.spaces ++ [character] }

def addBreak (folding : Folding) (found : Text) : Folding :=
  if folding.isBroken then
    { folding with moreBreaks := folding.moreBreaks ++ found }
  else
    { folding with
      firstBreak := found
      isBroken := true }

/-- What stands for the gap: its blanks, or one space for a line break, or the line breaks after
the first one. -/
def text (folding : Folding) : Text :=
  if !folding.isBroken then
    folding.spaces
  else if folding.firstBreak = ['\n'] then
    if folding.moreBreaks = [] then [' '] else folding.moreBreaks
  else
    folding.firstBreak ++ folding.moreBreaks

end Folding

/-- What stands for the gap before a character, if there is one. -/
def gapText (gap? : Option Folding) : Text :=
  (gap?.map Folding.text).getD []

def escapeTable : List (Char × Char) :=
  [('0', '\x00'), ('a', '\x07'), ('b', '\x08'), ('t', '\t'), ('\t', '\t'), ('n', '\n'),
    ('v', '\x0b'), ('f', '\x0c'), ('r', '\r'), ('e', '\x1b'), (' ', ' '), ('"', '"'),
    ('/', '/'), ('\\', '\\'), ('N', '\u0085'), ('_', '\u00A0'), ('L', '\u2028'),
    ('P', '\u2029')]

def codeEscapes : List (Char × Nat) :=
  [('x', 2), ('u', 4), ('U', 8)]

def codeCharacter? (digits : Text) : Option Char :=
  match Text.numeral? 16 digits with
  | none => none
  | some code => if code.isValidChar then some (Char.ofNat code) else none

/-- The character for which the escape at the cursor stands, and how many characters after the
backslash and the letter it takes. -/
def escape? (cursor : Cursor) : Option (Char × Nat) :=
  match cursor.at? 1 with
  | none => none
  | some letter =>
      match escapeTable.lookup letter, codeEscapes.lookup letter with
      | some character, _ => some (character, 0)
      | none, some width =>
          let digits := (cursor.rest.drop 2).take width
          if digits.length = width then
            (codeCharacter? digits).map fun character => (character, width)
          else
            none
      | none, none => none

def quotedFrom (quote : Char) (gap? : Option Folding) (cursor : Cursor) :
    Except SyntaxFault (Text × Cursor) :=
  match more : cursor.rest with
  | [] => .error .openQuote
  | first :: others =>
      have shorter := Cursor.length_skip_lt (by simp [more] : cursor.rest ≠ [])
      if isInlineBlank first then
        quotedFrom quote (some ((gap?.getD {}).addBlank first)) (cursor.skip 1)
      else if _broken : cursor.atBreak then
        quotedFrom quote (some ((gap?.getD {}).addBreak cursor.takeBreak.1)) cursor.takeBreak.2
      else if cursor.atAnyMark then
        .error .openQuote
      else if first = quote then
        if quote = '\'' ∧ others.head? = some '\'' then
          (quotedFrom quote none (cursor.skip 2)).map fun read =>
            (gapText gap? ++ '\'' :: read.1, read.2)
        else
          .ok (gapText gap?, cursor.skip 1)
      else if quote = '"' ∧ first = '\\' then
        if _broken : (cursor.skip 1).atBreak then
          (quotedFrom quote (some { isBroken := true }) (cursor.skip 1).takeBreak.2).map
            fun read => (gapText gap? ++ read.1, read.2)
        else
          match escape? cursor with
          | none => .error .unknownEscape
          | some (character, width) =>
              (quotedFrom quote none (cursor.skip (width + 2))).map fun read =>
                (gapText gap? ++ character :: read.1, read.2)
      else
        (quotedFrom quote none (cursor.skip 1)).map fun read =>
          (gapText gap? ++ first :: read.1, read.2)
termination_by cursor.rest.length
decreasing_by
  all_goals grind [Cursor.length_takeBreak_lt]

def quotedScalar (quote : Char) (cursor : Cursor) : Except SyntaxFault (Text × Cursor) :=
  quotedFrom quote none (cursor.skip 1)

/-- What has been read of a plain scalar: its content, the place after the gap that follows it,
and whether this gap holds a line break. -/
structure PlainScalar where
  content : Text
  cursor : Cursor
  isBroken : Bool

def flowIndicators : List Char :=
  ",[]\x7b\x7d".toList

def endsPlain (inFlow : Bool) (cursor : Cursor) : Bool :=
  (cursor.sees ':' && isGap (cursor.at? 1)) ||
    (inFlow && cursor.next?.any fun character => character ∈ flowIndicators)

def hasUnclearColon (inFlow : Bool) (cursor : Cursor) : Bool :=
  inFlow && cursor.sees ':' &&
    (cursor.at? 1).any fun character => character = '?' ∨ character ∈ flowIndicators

/-- The rest of a plain scalar after a gap. Its further lines have to be indented by `indent`,
unless it stands between brackets. -/
def plainFrom (inFlow : Bool) (indent : Int) (gap? : Option Folding) (cursor : Cursor) :
    Except SyntaxFault PlainScalar :=
  let isBroken := gap?.any Folding.isBroken
  let done : PlainScalar := ⟨[], cursor, isBroken⟩
  match more : cursor.rest with
  | [] => .ok done
  | first :: _ =>
      have shorter := Cursor.length_skip_lt (by simp [more] : cursor.rest ≠ [])
      if isInlineBlank first then
        if isBroken && (cursor.column : Int) < indent && first == '\t' then
          .error .tabInIndentation
        else
          plainFrom inFlow indent (some ((gap?.getD {}).addBlank first)) (cursor.skip 1)
      else if _broken : cursor.atBreak then
        plainFrom inFlow indent (some ((gap?.getD {}).addBreak cursor.takeBreak.1))
          cursor.takeBreak.2
      else if gap?.isSome && !inFlow && (cursor.column : Int) < indent then
        .ok done
      else if cursor.atAnyMark then
        .ok done
      else if gap?.isSome && first == '#' then
        .ok done
      else if hasUnclearColon inFlow cursor then
        .error .misplacedIndicator
      else if endsPlain inFlow cursor then
        .ok done
      else
        (plainFrom inFlow indent none (cursor.skip 1)).map fun read =>
          { read with content := gapText gap? ++ first :: read.content }
termination_by cursor.rest.length
decreasing_by
  all_goals grind [Cursor.length_takeBreak_lt]

def plainScalar (inFlow : Bool) (indent : Int) (cursor : Cursor) :
    Except SyntaxFault PlainScalar :=
  plainFrom inFlow indent none cursor

/-! ## Blocks -/

/-- What is kept of the line breaks at the end of a block. -/
inductive Chomping
  | strip
  | clip
  | keep
deriving DecidableEq, Repr

/-- The marks after the bar or the arrow of a block: which line breaks at the end are kept, and by
how much the lines are indented if that is said. -/
structure BlockHeader where
  chomping : Chomping := .clip
  increment? : Option Nat := none
deriving Repr

def chomping? : Option Char → Option Chomping
  | some '+' => some .keep
  | some '-' => some .strip
  | _ => none

def increment? (cursor : Cursor) : Except SyntaxFault (Option Nat) :=
  match cursor.next? with
  | none => .ok none
  | some character =>
      match Text.digitValue? 10 character with
      | none => .ok none
      | some 0 => .error .badBlockHeader
      | some value => .ok (some value)

def blockHeader (cursor : Cursor) : Except SyntaxFault (BlockHeader × Cursor) := do
  match chomping? cursor.next? with
  | some chomping =>
      let cursor := cursor.skip 1
      match ← increment? cursor with
      | none => return ({ chomping }, cursor)
      | some value => return ({ chomping, increment? := some value }, cursor.skip 1)
  | none =>
      match ← increment? cursor with
      | none => return ({}, cursor)
      | some value =>
          let cursor := cursor.skip 1
          match chomping? cursor.next? with
          | none => return ({ increment? := some value }, cursor)
          | some chomping => return ({ chomping, increment? := some value }, cursor.skip 1)

def endOfLine (fault : SyntaxFault) (cursor : Cursor) : Except SyntaxFault Cursor :=
  let cursor := cursor.skipWhile isInlineBlank
  let cursor :=
    if cursor.sees '#' then cursor.skipWhile fun character => !isBreak character else cursor
  if cursor.atBreak then .ok cursor.takeBreak.2
  else if cursor.rest = [] then .ok cursor
  else .error fault

/-- The spaces of an indentation, as far as it goes; without a limit, all of them. -/
def skipIndentation (indent? : Option Nat) (cursor : Cursor) : Cursor :=
  match indent? with
  | none => cursor.skipWhile (· == ' ')
  | some indent =>
      let spaces := (cursor.rest.takeWhile (· == ' ')).length
      cursor.skip (min spaces (indent - cursor.column))

theorem length_skipIndentation_le (indent? : Option Nat) (cursor : Cursor) :
    (skipIndentation indent? cursor).rest.length ≤ cursor.rest.length := by
  cases indent? <;> simp [skipIndentation, Cursor.length_skip_le, Cursor.length_skipWhile_le]

/-- The empty lines at the cursor: their line breaks, the place of the first other line after its
indentation, and the widest indentation that was met. -/
def emptyLines (indent? : Option Nat) (widest : Nat) (cursor : Cursor) :
    Except SyntaxFault (Text × Cursor × Nat) :=
  let here := skipIndentation indent? cursor
  let widest := max widest here.column
  if indent?.all (here.column < ·) && here.sees '\t' then
    .error .tabInIndentation
  else if _broken : here.atBreak then
    (emptyLines indent? widest here.takeBreak.2).map fun read =>
      (here.takeBreak.1 ++ read.1, read.2)
  else
    .ok ([], here, widest)
termination_by cursor.rest.length
decreasing_by
  grind [Cursor.length_takeBreak_lt, length_skipIndentation_le]

def Chomping.tail (chomping : Chomping) (lastBreak emptyBreaks : Text) : Text :=
  match chomping with
  | .strip => []
  | .clip => lastBreak
  | .keep => lastBreak ++ emptyBreaks

/-- What stands between two lines of a block. Folding makes one space of a single line break, and
drops the first of several, unless one of the two lines begins with a blank. -/
def betweenLines (isFolded : Bool) (lastBreak emptyBreaks : Text) (blankBefore blankAfter : Bool) :
    Text :=
  if isFolded && lastBreak == ['\n'] && !blankBefore && !blankAfter then
    if emptyBreaks = [] then [' '] else emptyBreaks
  else
    lastBreak ++ emptyBreaks

/-- The lines of a block from the cursor on, where `lastBreak` and `emptyBreaks` have come after
the line before them, and `blankBefore` says whether that line begins with a blank. -/
def blockLines
    (isFolded : Bool) (chomping : Chomping) (indent : Nat)
    (lastBreak emptyBreaks : Text) (blankBefore : Bool) (cursor : Cursor) :
    Except SyntaxFault (Text × Cursor) :=
  if cursor.column = indent ∧ cursor.rest ≠ [] then do
    let blankAfter := cursor.next?.any isInlineBlank
    let (line, lineEnd) := cursor.span fun character => !isBreak character
    let (newBreak, nextLine) :=
      if lineEnd.atBreak then lineEnd.takeBreak else ([], lineEnd)
    let (newEmpty, next, _) ← emptyLines (some indent) 0 nextLine
    if next.rest.length < cursor.rest.length then
      let (others, last) ←
        blockLines isFolded chomping indent newBreak newEmpty blankAfter next
      let between := betweenLines isFolded lastBreak emptyBreaks blankBefore blankAfter
      return (between ++ line ++ others, last)
    else
      throw .strayCharacter
  else
    .ok (chomping.tail lastBreak emptyBreaks, cursor)
termination_by cursor.rest.length

/-- A block at the cursor, which stands on its bar or arrow, inside a collection at `outer`, which
is -1 outside of all. -/
def blockScalar (isFolded : Bool) (outer : Int) (cursor : Cursor) :
    Except SyntaxFault (Text × Cursor) := do
  let (header, afterHeader) ← blockHeader (cursor.skip 1)
  let body ← endOfLine .badBlockHeader afterHeader
  let said? := header.increment?.map fun increment => (max outer 0).toNat + increment
  let (emptyBreaks, first, widest) ← emptyLines said? 0 body
  let indent := said?.getD (max widest (max (outer + 1).toNat 1))
  blockLines isFolded header.chomping indent [] emptyBreaks false first

end RunManifest.Yaml
