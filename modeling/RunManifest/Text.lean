/-!
Text as the list of its characters, with the few operations that every reader and writer of the
library shares: blanks, cutting at the first mark, trimming, and decimal numerals.
-/

namespace RunManifest

abbrev Text := List Char

namespace Text

/-- The characters with the Unicode property `White_Space`. -/
def isBlank (character : Char) : Bool :=
  let code := character.toNat
  (0x09 ≤ code && code ≤ 0x0D) || code == 0x20 || code == 0x85 || code == 0xA0 ||
    code == 0x1680 || (0x2000 ≤ code && code ≤ 0x200A) || code == 0x2028 ||
    code == 0x2029 || code == 0x202F || code == 0x205F || code == 0x3000

/-- Cuts a text at the first `mark`, which belongs to neither part. -/
def splitOnce (mark : Char) : Text → Option (Text × Text)
  | [] => none
  | first :: rest =>
      if first = mark then
        some ([], rest)
      else
        (splitOnce mark rest).map fun parts => (first :: parts.1, parts.2)

/-- The text without the characters at its end that satisfy `discard`. -/
def dropEndWhile (discard : Char → Bool) (text : Text) : Text :=
  (text.reverse.dropWhile discard).reverse

def trim (text : Text) : Text :=
  dropEndWhile isBlank (text.dropWhile isBlank)

def dropPrefix? : (start text : Text) → Option Text
  | [], text => some text
  | _ :: _, [] => none
  | expected :: start, first :: text =>
      if expected = first then dropPrefix? start text else none

def dropSuffix? (ending text : Text) : Option Text :=
  (dropPrefix? ending.reverse text.reverse).map List.reverse

/-- What follows the last character that satisfies `isMark`, or the whole text without one. -/
def afterLast (isMark : Char → Bool) (text : Text) : Text :=
  (text.reverse.takeWhile fun character => !isMark character).reverse

/-- Lower case for the letters `A` to `Z`; every other character stays as it is. -/
def toLower (text : Text) : Text :=
  text.map Char.toLower

theorem splitOnce_eq_some_iff
    {mark : Char} {text before after : Text} :
    splitOnce mark text = some (before, after) ↔
      text = before ++ mark :: after ∧ mark ∉ before := by
  induction text generalizing before with
  | nil =>
      simp [splitOnce]
  | cons first rest inductionHypothesis =>
      by_cases same : first = mark
      · subst same
        cases before <;> simp [splitOnce]
        grind
      · cases before with
        | nil =>
            simp [splitOnce, same]
        | cons head tail =>
            simp only [splitOnce, same, if_false, Option.map_eq_some_iff, Prod.mk.injEq,
              List.cons.injEq, Prod.exists]
            constructor
            · rintro ⟨left, right, found, ⟨rfl, rfl⟩, rfl⟩
              obtain ⟨rfl, absent⟩ := inductionHypothesis.mp found
              exact ⟨by simp, by simp [absent, Ne.symm same]⟩
            · rintro ⟨⟨rfl, rfl⟩, absent⟩
              exact ⟨tail, after, inductionHypothesis.mpr ⟨rfl, by grind⟩, by simp⟩

theorem splitOnce_eq_none_iff
    {mark : Char} {text : Text} :
    splitOnce mark text = none ↔ mark ∉ text := by
  induction text with
  | nil =>
      simp [splitOnce]
  | cons first rest inductionHypothesis =>
      by_cases same : first = mark
      · simp [splitOnce, same]
      · simp [splitOnce, same, inductionHypothesis, Ne.symm same]

theorem dropPrefix?_eq_some_iff
    {start text rest : Text} :
    dropPrefix? start text = some rest ↔ text = start ++ rest := by
  induction start generalizing text with
  | nil =>
      simp [dropPrefix?]
  | cons expected start inductionHypothesis =>
      cases text with
      | nil =>
          simp [dropPrefix?]
      | cons first text =>
          by_cases same : expected = first
          · simp [dropPrefix?, same, inductionHypothesis]
          · simp [dropPrefix?, same, Ne.symm same]

/-! ## Numerals -/

def decimal (number : Nat) : Text :=
  Nat.toDigits 10 number

def digitValue? (base : Nat) (character : Char) : Option Nat :=
  let value? : Option Nat :=
    if character.isDigit then
      some (character.toNat - '0'.toNat)
    else if 'a' ≤ character && character ≤ 'f' then
      some (character.toNat - 'a'.toNat + 10)
    else if 'A' ≤ character && character ≤ 'F' then
      some (character.toNat - 'A'.toNat + 10)
    else
      none
  value?.filter fun value => value < base

/-- The number that digits spell when they are written after the numeral of `total`. -/
def numeralFrom? (base total : Nat) : Text → Option Nat
  | [] => some total
  | digit :: rest =>
      match digitValue? base digit with
      | none => none
      | some value => numeralFrom? base (base * total + value) rest

def numeral? (base : Nat) : Text → Option Nat
  | [] => none
  | digit :: rest => numeralFrom? base 0 (digit :: rest)

end Text

end RunManifest
