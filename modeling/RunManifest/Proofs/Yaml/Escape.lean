import RunManifest.Proofs.Text
import RunManifest.Yaml.ScalarReader
import RunManifest.Yaml.Writer

/-!
# Escapes

Every character between double quotes is written as itself or as an escape that the reader of
scalars understands as this character.  So texts between double quotes can be told apart, and so
can their ends.
-/

namespace RunManifest.Yaml

variable {character : Char} {width code : Nat}

theorem isBreak_iff :
    isBreak character = true ↔ character ∈ ['\n', '\r', '\u0085', '\u2028', '\u2029'] := by
  simp [isBreak, or_assoc]

/-- A character with a property that no line break has is no line break. -/
theorem isBreak_eq_false_of (property : Char → Bool) (holds : property character = true)
    (fails : ['\n', '\r', '\u0085', '\u2028', '\u2029'].any property = false) :
    isBreak character = false := by
  rw [Bool.eq_false_iff]
  intro broken
  exact List.any_eq_false.mp fails character (isBreak_iff.mp broken) holds

/-- No character of a text is a line break. -/
theorem isBreak_eq_false_of_mem {text : Text} (unbroken : text.any isBreak = false)
    (member : character ∈ text) : isBreak character = false :=
  Bool.eq_false_iff.mpr (List.any_eq_false.mp unbroken character member)

theorem digitValue?_toUpper_digitChar :
    ∀ digit < 16, Text.digitValue? 16 (Char.toUpper digit.digitChar) = some digit := by
  decide

theorem length_hexadecimal (short : (Nat.toDigits 16 code).length ≤ width) :
    (hexadecimal width code).length = width := by
  simp only [hexadecimal, List.length_append, List.length_replicate, List.length_map]
  omega

theorem numeralFrom?_replicate_zero (count : Nat) :
    Text.numeralFrom? 16 0 (List.replicate count '0') = some 0 := by
  induction count with
  | zero =>
      rfl
  | succ count inductionHypothesis =>
      rw [List.replicate_succ, Text.numeralFrom?]
      exact inductionHypothesis

theorem numeralFrom?_hexadecimal (width code : Nat) :
    Text.numeralFrom? 16 0 (hexadecimal width code) = some code := by
  rw [hexadecimal, Text.numeralFrom?_append, numeralFrom?_replicate_zero, Option.bind_some]
  exact Text.numeralFrom?_toDigits (by decide) digitValue?_toUpper_digitChar code

theorem numeral?_hexadecimal (width code : Nat) :
    Text.numeral? 16 (hexadecimal width code) = some code := by
  have read := numeralFrom?_hexadecimal width code
  cases digits : hexadecimal width code with
  | nil =>
      have empty := (List.append_eq_nil_iff.mp digits).2
      exact absurd (List.map_eq_nil_iff.mp empty) Nat.toDigits_ne_nil
  | cons digit rest =>
      rw [digits] at read
      exact read

theorem codeCharacter?_hexadecimal (width : Nat) (character : Char) :
    codeCharacter? (hexadecimal width character.toNat) = some character := by
  have valid : character.toNat.isValidChar := character.valid
  rw [codeCharacter?, numeral?_hexadecimal]
  simp only [if_pos valid, Char.ofNat_toNat]

/-- The forms in which a character is written between double quotes: as itself, or as an escape,
with a letter from one of the two tables of the reader. -/
inductive QuotedForm (character : Char) : Text → Prop
  | bare (noQuote : character ≠ '"') (noBackslash : character ≠ '\\')
      (unbroken : isBreak character = false) :
      QuotedForm character [character]
  | named {letter : Char} (known : escapeTable.lookup letter = some character) :
      QuotedForm character ['\\', letter]
  | coded {letter : Char} {width : Nat} (unnamed : escapeTable.lookup letter = none)
      (known : codeEscapes.lookup letter = some width)
      (long : (hexadecimal width character.toNat).length = width) :
      QuotedForm character ('\\' :: letter :: hexadecimal width character.toNat)

theorem quotedForm_doubleQuotedCharacter (character : Char) :
    QuotedForm character (doubleQuotedCharacter character) := by
  unfold doubleQuotedCharacter
  cases named : namedEscapes.lookup character with
  | some letter =>
      have readBack :
          ∀ entry ∈ namedEscapes, escapeTable.lookup entry.2 = some entry.1 := by
        decide
      obtain ⟨before, behind, tableEq, -⟩ := List.lookup_eq_some_iff.mp named
      have member : (character, letter) ∈ namedEscapes := by
        rw [tableEq]
        exact List.mem_append_right before List.mem_cons_self
      exact .named (readBack (character, letter) member)
  | none =>
      have below : character.toNat < 16 ^ 8 := by
        have valid : character.toNat.isValidChar := character.valid
        unfold Nat.isValidChar at valid
        omega
      have short {width : Nat} (positive : 0 < width) (fits : character.toNat < 16 ^ width) :
          (Nat.toDigits 16 character.toNat).length ≤ width :=
        (Nat.length_toDigits_le_iff (by decide) positive).mpr fits
      have differs (other : Char) (known : (namedEscapes.lookup other).isSome = true) :
          character ≠ other := by
        rintro rfl
        rw [named] at known
        cases known
      have unnamed : (namedEscapes.lookup character).isNone = true := by
        rw [named]
        rfl
      have unbroken : isBreak character = false :=
        isBreak_eq_false_of (fun mark => (namedEscapes.lookup mark).isNone) unnamed (by decide)
      simp only
      split
      · exact .bare (differs '"' rfl) (differs '\\' rfl) unbroken
      · split
        · exact .coded rfl rfl (length_hexadecimal (short (by decide) (by omega)))
        · split
          · exact .coded rfl rfl (length_hexadecimal (short (by decide) (by omega)))
          · exact .coded rfl rfl (length_hexadecimal (short (by decide) below))

namespace QuotedForm

variable {written rest : Text}

theorem head?_append (form : QuotedForm character written) (rest : Text) :
    (written ++ rest).head? = written.head? := by
  cases form <;> rfl

theorem eq_singleton (form : QuotedForm character written) (unescaped : written.head? ≠ some '\\') :
    written = [character] := by
  cases form with
  | bare noQuote noBackslash unbroken =>
      rfl
  | named known =>
      exact absurd rfl unescaped
  | coded unnamed known long =>
      exact absurd rfl unescaped

theorem head?_ne_quote (form : QuotedForm character written) : written.head? ≠ some '"' := by
  cases form with
  | bare noQuote noBackslash unbroken =>
      simpa using noQuote
  | named known =>
      simp
  | coded unnamed known long =>
      simp

/-- The reader takes an escape for the character that it was written for, and goes on behind it. -/
theorem escape?_eq (form : QuotedForm character written) (escaped : written.head? = some '\\')
    {cursor : Cursor} (stands : cursor.rest = written ++ rest) :
    escape? cursor = some (character, written.length - 2) := by
  cases form with
  | bare noQuote noBackslash unbroken =>
      exact absurd (Option.some.inj escaped) noBackslash
  | @named letter known =>
      have letterAt : cursor.at? 1 = some letter := by
        rw [Cursor.at?, stands]
        rfl
      simp only [escape?, letterAt, known]
      rfl
  | @coded letter width unnamed known long =>
      have letterAt : cursor.at? 1 = some letter := by
        rw [Cursor.at?, stands]
        rfl
      have digitsThere :
          (cursor.rest.drop 2).take width = hexadecimal width character.toNat := by
        rw [stands]
        change (hexadecimal width character.toNat ++ rest).take width = _
        rw [List.take_append_of_le_length (Nat.le_of_eq long.symm),
          List.take_of_length_le (Nat.le_of_eq long)]
      simp only [escape?, letterAt, unnamed, known, digitsThere, long, if_true,
        codeCharacter?_hexadecimal, Option.map_some, List.length_cons]
      rfl

end QuotedForm

variable {first second rest others : Text}

theorem doubleQuotedCharacter_append_inj {other : Char}
    (same : doubleQuotedCharacter character ++ rest = doubleQuotedCharacter other ++ others) :
    character = other ∧ rest = others := by
  have form := quotedForm_doubleQuotedCharacter character
  have otherForm := quotedForm_doubleQuotedCharacter other
  have sameHead :
      (doubleQuotedCharacter character).head? = (doubleQuotedCharacter other).head? := by
    have heads := congrArg List.head? same
    rwa [form.head?_append, otherForm.head?_append] at heads
  have sameCharacter : character = other := by
    by_cases escaped : (doubleQuotedCharacter character).head? = some '\\'
    · -- One reader stands before both, and it reads one character only.
      let cursor := Cursor.start (doubleQuotedCharacter character ++ rest)
      have read : escape? cursor = some (character, _) := form.escape?_eq escaped rfl
      have readToo : escape? cursor = some (other, _) :=
        otherForm.escape?_eq (sameHead.symm.trans escaped) same
      rw [read, Option.some.injEq, Prod.mk.injEq] at readToo
      exact readToo.1
    · have bare := form.eq_singleton escaped
      have otherBare := otherForm.eq_singleton (sameHead ▸ escaped)
      rw [bare, otherBare] at same
      exact (List.cons.inj same).1
  subst sameCharacter
  exact ⟨rfl, List.append_cancel_left same⟩

theorem doubleQuotedCharacter_append_ne_quote :
    doubleQuotedCharacter character ++ rest ≠ '"' :: others := by
  have form := quotedForm_doubleQuotedCharacter character
  intro same
  have heads := congrArg List.head? same
  rw [form.head?_append] at heads
  exact form.head?_ne_quote heads

theorem doubleQuoted_append_inj
    (same :
      first.flatMap doubleQuotedCharacter ++ '"' :: rest =
        second.flatMap doubleQuotedCharacter ++ '"' :: others) :
    first = second ∧ rest = others := by
  induction first generalizing second with
  | nil =>
      cases second with
      | nil =>
          exact ⟨rfl, (List.cons.inj same).2⟩
      | cons other behind =>
          rw [List.flatMap_cons, List.append_assoc] at same
          exact absurd same.symm doubleQuotedCharacter_append_ne_quote
  | cons character behind inductionHypothesis =>
      cases second with
      | nil =>
          rw [List.flatMap_cons, List.append_assoc] at same
          exact absurd same doubleQuotedCharacter_append_ne_quote
      | cons other otherBehind =>
          rw [List.flatMap_cons, List.flatMap_cons, List.append_assoc, List.append_assoc] at same
          obtain ⟨rfl, sameBehind⟩ := doubleQuotedCharacter_append_inj same
          obtain ⟨rfl, sameRest⟩ := inductionHypothesis sameBehind
          exact ⟨rfl, sameRest⟩

/-! ## Texts without line breaks -/

theorem isBreak_eq_false_of_numeralFrom? {digits : Text} {total number : Nat}
    (read : Text.numeralFrom? 16 total digits = some number) :
    ∀ digit ∈ digits, isBreak digit = false := by
  induction digits generalizing total with
  | nil =>
      intro digit member
      cases member
  | cons first rest inductionHypothesis =>
      rw [Text.numeralFrom?] at read
      cases value : Text.digitValue? 16 first with
      | none =>
          rw [value] at read
          cases read
      | some _ =>
          rw [value] at read
          intro digit member
          rcases List.mem_cons.mp member with rfl | behind
          · have isDigit : (Text.digitValue? 16 digit).isSome = true := by
              rw [value]
              rfl
            exact isBreak_eq_false_of (fun mark => (Text.digitValue? 16 mark).isSome) isDigit
              (by decide)
          · exact inductionHypothesis read digit behind

theorem QuotedForm.isBreak_eq_false {written : Text} (form : QuotedForm character written) :
    ∀ part ∈ written, isBreak part = false := by
  have letters : ∀ entry ∈ escapeTable, isBreak entry.1 = false := by
    decide
  have codeLetters : ∀ entry ∈ codeEscapes, isBreak entry.1 = false := by
    decide
  intro part member
  cases form with
  | bare noQuote noBackslash unbroken =>
      rw [List.mem_singleton.mp member]
      exact unbroken
  | @named letter known =>
      obtain ⟨before, behind, tableEq, -⟩ := List.lookup_eq_some_iff.mp known
      have known : (letter, character) ∈ escapeTable := by
        rw [tableEq]
        exact List.mem_append_right before List.mem_cons_self
      rcases List.mem_cons.mp member with rfl | inLetter
      · rfl
      · rw [List.mem_singleton.mp inLetter]
        exact letters (letter, character) known
  | @coded letter width unnamed known long =>
      obtain ⟨before, behind, tableEq, -⟩ := List.lookup_eq_some_iff.mp known
      have known : (letter, width) ∈ codeEscapes := by
        rw [tableEq]
        exact List.mem_append_right before List.mem_cons_self
      rcases List.mem_cons.mp member with rfl | inCode
      · rfl
      · rcases List.mem_cons.mp inCode with rfl | inDigits
        · exact codeLetters (part, width) known
        · exact isBreak_eq_false_of_numeralFrom? (numeralFrom?_hexadecimal width character.toNat)
            part inDigits

/-- No line break is written between double quotes. -/
theorem isBreak_eq_false_of_mem_doubleQuoted {text : Text} :
    ∀ part ∈ text.flatMap doubleQuotedCharacter, isBreak part = false := by
  intro part member
  obtain ⟨character, -, written⟩ := List.mem_flatMap.mp member
  exact (quotedForm_doubleQuotedCharacter character).isBreak_eq_false part written

end RunManifest.Yaml
