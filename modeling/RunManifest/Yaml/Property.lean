import RunManifest.Text.Utf8
import RunManifest.Yaml.ScalarReader

/-!
Reading what stands before nodes and documents: anchors and aliases, tags, and directives.

A tag may spell any bytes by escapes. A byte zero ends it, so what follows one is dropped.
-/

namespace RunManifest.Yaml

def anchorEnds : List Char :=
  "?:,]\x7d%@\x60".toList

def anchorName (cursor : Cursor) : Except SyntaxFault (Text × Cursor) :=
  let (name, next) := (cursor.skip 1).span isNameCharacter
  if name ≠ [] ∧ (isGap next.next? ∨ next.next?.any (· ∈ anchorEnds)) then
    .ok (name, next)
  else
    .error .badAnchor

/-- The bytes of a tag, without what follows a byte zero. -/
def tagBytes (bytes : Bytes) : Bytes :=
  bytes.takeWhile (· ≠ 0)

def tagMarks : List Char :=
  ";/?:@&=+$.%!~*'()".toList

def innerTagMarks : List Char :=
  ",[]".toList

def isTagCharacter (isInner : Bool) (character : Char) : Bool :=
  isNameCharacter character || character ∈ tagMarks || (isInner && character ∈ innerTagMarks)

def escapedByte? : Text → Option (UInt8 × Text)
  | '%' :: high :: low :: rest => do
      let value ← Text.numeral? 16 [high, low]
      return (UInt8.ofNat value, rest)
  | _ => none

def escapedLength? (lead : UInt8) : Option Nat :=
  if lead < 0x80 then some 0
  else if lead < 0xC0 then none
  else if lead < 0xE0 then some 1
  else if lead < 0xF0 then some 2
  else if lead < 0xF8 then some 3
  else none

/-- The escaped bytes that go on with a character, of which `missing` are still needed. -/
def escapedTail? : (missing : Nat) → Text → Option (Bytes × Text)
  | 0, rest => some ([], rest)
  | missing + 1, text => do
      let (byte, rest) ← escapedByte? text
      if 0x80 ≤ byte ∧ byte < 0xC0 then
        let (others, last) ← escapedTail? missing rest
        return (byte :: others, last)
      else
        none

def escapedCharacter? (text : Text) : Option (Bytes × Text) := do
  let (lead, rest) ← escapedByte? text
  let missing ← escapedLength? lead
  let (others, last) ← escapedTail? missing rest
  return (lead :: others, last)

def tagText? (text : Text) : Option Bytes :=
  match text with
  | [] => some []
  | '%' :: others => do
      let (bytes, rest) ← escapedCharacter? ('%' :: others)
      if rest.length < others.length + 1 then
        return bytes ++ (← tagText? rest)
      else
        none
  | character :: rest => return String.utf8EncodeChar character ++ (← tagText? rest)
termination_by text.length

/-- The part of a tag at the cursor. It may only be empty after `before`, of which the first
character is dropped. -/
def tagPart (isInner : Bool) (before : Text) (cursor : Cursor) :
    Except SyntaxFault (Bytes × Cursor) :=
  let (text, next) := cursor.span (isTagCharacter isInner)
  if before = [] ∧ text = [] then
    .error .badTag
  else
    match tagText? text with
    | none => .error .badTag
    | some bytes => .ok (tagBytes (Utf8.encode before.tail ++ bytes), next)

def tagHandle (cursor : Cursor) : Except SyntaxFault (Text × Cursor) :=
  if cursor.sees '!' then
    let (name, next) := (cursor.skip 1).span isNameCharacter
    if next.sees '!' then .ok ('!' :: name ++ ['!'], next.skip 1)
    else .ok ('!' :: name, next)
  else
    .error .badTag

/-- A tag as it is written: a handle that stands for a beginning of tags, and the rest. -/
structure TagForm where
  handle : Text
  suffix : Bytes
deriving DecidableEq, Repr

/-- The form of a tag with neither a handle nor angle brackets. A lone exclamation mark is a tag of
its own. -/
def localTag (suffix : Bytes) : TagForm :=
  if suffix = [] then ⟨[], Utf8.encode ['!']⟩ else ⟨['!'], suffix⟩

def tagForm (cursor : Cursor) : Except SyntaxFault (TagForm × Cursor) := do
  if cursor.at? 1 = some '<' then
    let (suffix, next) ← tagPart true [] (cursor.skip 2)
    if next.sees '>' then
      return (⟨[], suffix⟩, next.skip 1)
    else
      throw .badTag
  else
    let (handle, next) ← tagHandle cursor
    if 1 < handle.length ∧ handle.getLast? = some '!' then
      let (suffix, last) ← tagPart false [] next
      return (⟨handle, suffix⟩, last)
    else
      let (suffix, last) ← tagPart false handle next
      return (localTag suffix, last)

/-- The tag at the cursor, which a gap has to follow, or a comma between brackets. -/
def tagProperty (inFlow : Bool) (cursor : Cursor) : Except SyntaxFault (TagForm × Cursor) := do
  let (form, next) ← tagForm cursor
  if isGap next.next? || (inFlow && next.sees ',') then
    return (form, next)
  else
    throw .badTag

/-! ## Directives -/

/-- What a line that begins with a percent sign says. -/
inductive Directive
  | version (major minor : Nat)
  | tag (handle : Text) (start : Bytes)
deriving DecidableEq, Repr

def versionNumber (cursor : Cursor) : Except SyntaxFault (Nat × Cursor) :=
  let (digits, next) := cursor.span Char.isDigit
  match Text.numeral? 10 digits with
  | none => .error .badDirective
  | some number => if digits.length ≤ 9 then .ok (number, next) else .error .badDirective

def versionDirective (cursor : Cursor) : Except SyntaxFault (Directive × Cursor) := do
  let (major, afterMajor) ← versionNumber (cursor.skipWhile isInlineBlank)
  if afterMajor.sees '.' then
    let (minor, next) ← versionNumber (afterMajor.skip 1)
    return (.version major minor, next)
  else
    throw .badDirective

def tagDirective (cursor : Cursor) : Except SyntaxFault (Directive × Cursor) := do
  let (handle, afterHandle) ← tagHandle (cursor.skipWhile isInlineBlank)
  if handle ≠ ['!'] ∧ handle.getLast? ≠ some '!' then
    throw .badDirective
  else if afterHandle.next?.any isInlineBlank then
    let (start, next) ← tagPart true [] (afterHandle.skipWhile isInlineBlank)
    if isGap next.next? then return (.tag handle start, next) else throw .badDirective
  else
    throw .badDirective

def directive (cursor : Cursor) : Except SyntaxFault (Directive × Cursor) := do
  let (name, afterName) := (cursor.skip 1).span isNameCharacter
  if isGap afterName.next? then
    let (found, afterValue) ←
      if name = "YAML".toList then versionDirective afterName
      else if name = "TAG".toList then tagDirective afterName
      else throw .badDirective
    return (found, ← endOfLine .badDirective afterValue)
  else
    throw .badDirective

end RunManifest.Yaml
