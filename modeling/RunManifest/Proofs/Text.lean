import Mathlib.Data.List.TakeWhile
import RunManifest.Text

/-!
# Cutting, trimming, cases and numerals

A text is cut at a mark in one way, and it is trimmed to nothing only if it is blank throughout.  A
decimal numeral is a sequence of digits and spells their value; every number is read back from its
numeral without leading zeros, so that different numbers have different numerals of this kind.
-/

namespace RunManifest.Text

/-- Two texts that do not hold a mark are the same if they are the same up to the mark. -/
theorem append_mark_inj {mark : Char} {first second rest others : Text}
    (firstWhole : mark ∉ first) (secondWhole : mark ∉ second)
    (same : first ++ mark :: rest = second ++ mark :: others) :
    first = second ∧ rest = others := by
  have cut : splitOnce mark (first ++ mark :: rest) = some (first, rest) :=
    splitOnce_eq_some_iff.mpr ⟨rfl, firstWhole⟩
  have cutToo : splitOnce mark (first ++ mark :: rest) = some (second, others) :=
    splitOnce_eq_some_iff.mpr ⟨same, secondWhole⟩
  rw [cut] at cutToo
  cases cutToo
  exact ⟨rfl, rfl⟩

/-- What is left of a text that ends with another one stands before that. -/
theorem dropSuffix?_eq_some_iff {ending text rest : Text} :
    dropSuffix? ending text = some rest ↔ text = rest ++ ending := by
  rw [dropSuffix?, Option.map_eq_some_iff]
  constructor
  · rintro ⟨reversed, cut, rfl⟩
    rw [dropPrefix?_eq_some_iff] at cut
    rw [← List.reverse_reverse text, cut, List.reverse_append, List.reverse_reverse]
  · rintro rfl
    exact ⟨rest.reverse, dropPrefix?_eq_some_iff.mpr List.reverse_append, List.reverse_reverse rest⟩

/-- What stands behind the last mark of a text holds no mark, and it is all of the text or stands
behind a mark. -/
theorem afterLast_eq_iff {isMark : Char → Bool} {text rest : Text} :
    afterLast isMark text = rest ↔
      (∀ character ∈ rest, isMark character = false) ∧
        (text = rest ∨ ∃ front mark, isMark mark = true ∧ text = front ++ mark :: rest) := by
  rw [afterLast]
  constructor
  · intro behind
    have whole :=
      List.takeWhile_append_dropWhile (p := fun character => !isMark character) (l := text.reverse)
    have stops := List.head?_dropWhile_not (fun character => !isMark character) text.reverse
    rw [List.reverse_eq_iff.mp behind] at whole
    constructor
    · intro character member
      rw [← behind, List.mem_reverse] at member
      simpa using List.mem_takeWhile_imp member
    · cases remaining : text.reverse.dropWhile fun character => !isMark character with
      | nil =>
          rw [remaining, List.append_nil] at whole
          exact .inl (List.reverse_inj.mp whole).symm
      | cons mark front =>
          rw [remaining] at whole stops
          refine .inr ⟨front.reverse, mark, by simpa using stops, ?_⟩
          rw [← List.reverse_reverse text, ← whole]
          simp
  · rintro ⟨unmarked, whole⟩
    have passed : ∀ character ∈ rest.reverse, (!isMark character) = true := by
      intro character member
      rw [unmarked character (List.mem_reverse.mp member), Bool.not_false]
    rcases whole with rfl | ⟨front, mark, marks, rfl⟩
    · rw [List.takeWhile_eq_self_iff.mpr passed, List.reverse_reverse]
    · have stops : ¬ (!isMark mark) = true := by
        simp [marks]
      rw [List.reverse_append, List.reverse_cons, List.append_assoc,
        List.takeWhile_append_of_pos passed, List.singleton_append, List.takeWhile_cons, if_neg stops,
        List.append_nil, List.reverse_reverse]

theorem dropEndWhile_eq_nil_iff {discard : Char → Bool} {text : Text} :
    dropEndWhile discard text = [] ↔ ∀ character ∈ text, discard character = true := by
  rw [dropEndWhile, List.reverse_eq_nil_iff, List.dropWhile_eq_nil_iff]
  simp only [List.mem_reverse]

/-- What is left of a text ends where the discarded characters begin. -/
theorem dropEndWhile_eq_iff {discard : Char → Bool} {text kept : Text} :
    dropEndWhile discard text = kept ↔
      ∃ dropped, text = kept ++ dropped ∧ (∀ character ∈ dropped, discard character = true) ∧
        ∀ last ∈ kept.getLast?, discard last = false := by
  rw [dropEndWhile]
  constructor
  · intro left
    subst left
    refine ⟨(text.reverse.takeWhile discard).reverse, ?_, ?_, ?_⟩
    · rw [← List.reverse_append, List.takeWhile_append_dropWhile, List.reverse_reverse]
    · intro character member
      exact List.mem_takeWhile_imp (List.mem_reverse.mp member)
    · intro last ends
      rw [List.getLast?_reverse, Option.mem_def] at ends
      have stays := List.head?_dropWhile_not discard text.reverse
      rw [ends] at stays
      simpa using stays
  · rintro ⟨dropped, rfl, discarded, stays⟩
    have allDropped : ∀ character ∈ dropped.reverse, discard character = true := by
      intro character member
      exact discarded character (List.mem_reverse.mp member)
    rw [List.reverse_append, List.dropWhile_append_of_pos allDropped]
    cases reversed : kept.reverse with
    | nil =>
        rw [List.reverse_eq_nil_iff.mp reversed]
        rfl
    | cons last before =>
        have keeps : discard last = false := by
          apply stays
          rw [Option.mem_def, List.getLast?_eq_head?_reverse, reversed, List.head?_cons]
        rw [List.dropWhile_cons_of_neg (by simp [keeps]), ← reversed, List.reverse_reverse]

theorem trim_eq_nil_iff {text : Text} :
    trim text = [] ↔ ∀ character ∈ text, isBlank character = true := by
  rw [trim, dropEndWhile_eq_nil_iff]
  constructor
  · intro blankEnd
    rw [← List.takeWhile_append_dropWhile (p := isBlank) (l := text)]
    intro character member
    rcases List.mem_append.mp member with inStart | inEnd
    · exact List.mem_takeWhile_imp inStart
    · exact blankEnd character inEnd
  · intro blank character member
    exact blank character ((List.dropWhile_suffix isBlank).subset member)

/-- The characters that a capital letter is the upper case of are itself and its lower case. -/
theorem toUpper_eq_iff {character letter : Char} (capital : letter.isUpper = true) :
    character.toUpper = letter ↔ character = letter ∨ character = letter.toLower := by
  delta Char.isUpper at capital
  rw [decide_eq_true_eq] at capital
  have inRange : 65 ≤ letter.val.toNat ∧ letter.val.toNat ≤ 90 := by
    simpa [UInt32.le_iff_toNat_le] using capital
  have lower : letter.toLower.val.toNat = letter.val.toNat + 32 := by
    delta Char.toLower
    rw [dif_pos capital]
    simp only [Char.reduceVal, UInt32.reduceSub, UInt32.toNat_add, UInt32.reduceToNat]
    omega
  simp only [Char.ext_iff, ← UInt32.toNat_inj, lower]
  delta Char.toUpper
  split_ifs with small
  · simp only [Char.reduceVal, UInt32.le_iff_toNat_le, UInt32.reduceToNat] at small
    simp only [Char.reduceVal, UInt32.reduceSub, UInt32.toNat_add, UInt32.reduceToNat]
    omega
  · simp only [Char.reduceVal, UInt32.le_iff_toNat_le, UInt32.reduceToNat] at small
    omega

/-! ## Numerals -/

theorem digitValue?_ten (character : Char) :
    digitValue? 10 character =
      if character.isDigit then some (character.toNat - '0'.toNat) else none := by
  unfold digitValue?
  by_cases digit : character.isDigit = true
  · have inRange : 48 ≤ character.val.toNat ∧ character.val.toNat ≤ 57 := by
      simpa [Char.isDigit, UInt32.le_iff_toNat_le] using digit
    have small : character.toNat - '0'.toNat < 10 := by
      simp only [Char.toNat, Char.reduceVal, UInt32.reduceToNat]
      omega
    simp only [digit, if_true, Option.filter_some, decide_eq_true small]
  · -- The letters that are digits of larger bases are worth ten and more.
    rw [if_neg digit, if_neg digit]
    split_ifs <;> simp

/-- Digits that are written after the numeral of a number spell on from it. -/
theorem numeralFrom?_ten_eq_some_iff {total number : Nat} {digits : Text} :
    numeralFrom? 10 total digits = some number ↔
      (∀ digit ∈ digits, digit.isDigit = true) ∧ Nat.ofDigitChars 10 digits total = number := by
  induction digits generalizing total with
  | nil =>
      simp [numeralFrom?]
  | cons digit rest inductionHypothesis =>
      rw [numeralFrom?, digitValue?_ten, Nat.ofDigitChars_cons, List.forall_mem_cons]
      by_cases isDigit : digit.isDigit = true
      · simp only [isDigit, if_true, true_and, inductionHypothesis]
      · simp [isDigit]

theorem numeral?_ten_eq_some_iff {number : Nat} {digits : Text} :
    numeral? 10 digits = some number ↔
      digits ≠ [] ∧ (∀ digit ∈ digits, digit.isDigit = true) ∧
        Nat.ofDigitChars 10 digits 0 = number := by
  cases digits with
  | nil =>
      simp [numeral?]
  | cons digit rest =>
      rw [numeral?, numeralFrom?_ten_eq_some_iff]
      simp

theorem digitValue?_digitChar {digit : Nat} (small : digit < 10) :
    digitValue? 10 digit.digitChar = some digit := by
  revert digit
  decide

theorem numeralFrom?_append (base total : Nat) (front back : Text) :
    numeralFrom? base total (front ++ back) =
      (numeralFrom? base total front).bind fun reached => numeralFrom? base reached back := by
  induction front generalizing total with
  | nil =>
      rfl
  | cons digit rest inductionHypothesis =>
      rw [List.cons_append, numeralFrom?, numeralFrom?]
      cases digitValue? base digit with
      | none =>
          rfl
      | some value =>
          exact inductionHypothesis (base * total + value)

/-- A number is read back from its digits in any base, in whichever case they are spelled. -/
theorem numeralFrom?_toDigits {base : Nat} (large : 1 < base) {spell : Char → Char}
    (spells : ∀ digit < base, digitValue? base (spell digit.digitChar) = some digit)
    (number : Nat) :
    numeralFrom? base 0 ((Nat.toDigits base number).map spell) = some number := by
  induction number using Nat.strongRecOn with
  | ind number inductionHypothesis =>
      by_cases small : number < base
      · rw [Nat.toDigits_of_lt_base small, List.map_singleton, numeralFrom?, spells number small]
        simp [numeralFrom?]
      · have quotientLess : number / base < number := Nat.div_lt_self (by omega) large
        have quotientRead := inductionHypothesis (number / base) quotientLess
        have remainderLess : number % base < base := Nat.mod_lt number (by omega)
        rw [Nat.toDigits_of_base_le large (by omega), List.map_append, numeralFrom?_append,
          quotientRead, Option.bind_some, List.map_singleton, numeralFrom?,
          spells (number % base) remainderLess]
        simp only [numeralFrom?, Option.some.injEq]
        exact Nat.div_add_mod number base

theorem numeralFrom?_decimal (number : Nat) :
    numeralFrom? 10 0 (decimal number) = some number := by
  have spells : ∀ digit < 10, digitValue? 10 (id digit.digitChar) = some digit :=
    fun digit small => digitValue?_digitChar small
  have read := numeralFrom?_toDigits (by decide) spells number
  rwa [List.map_id] at read

theorem numeral?_decimal (number : Nat) :
    numeral? 10 (decimal number) = some number := by
  have read := numeralFrom?_decimal number
  cases digits : decimal number with
  | nil =>
      exact absurd digits Nat.toDigits_ne_nil
  | cons digit rest =>
      rw [digits] at read
      exact read

theorem decimal_injective {first second : Nat} (same : decimal first = decimal second) :
    first = second := by
  have read := numeral?_decimal first
  rw [same, numeral?_decimal] at read
  exact (Option.some.inj read).symm

theorem isDigit_of_mem_decimal {number : Nat} {character : Char}
    (member : character ∈ decimal number) :
    character.isDigit = true :=
  Nat.isDigit_of_mem_toDigits (by decide) (by decide) member

end RunManifest.Text
