import RunManifest.Proofs.Yaml.Escape

/-!
# Scalars

What is written for a string says in which style it is written, what the string is and where it
ends, as long as the text behind it begins further left than the lines of a block would
(`scalarText_append_inj`).
-/

namespace RunManifest.Yaml

variable {indent column : Nat} {afterBreak : Bool} {character mark : Char}
variable {text first second rest others behind : Text}

/-- What can stand behind a block at an indentation: nothing, or a line that begins further left. -/
inductive EndsBlock (indent : Nat) : Text → Prop
  | nothing :
      EndsBlock indent []
  | line {column : Nat} {mark : Char} {behind : Text}
      (left : column < indent) (noSpace : mark ≠ ' ') (unbroken : isBreak mark = false) :
      EndsBlock indent (pad column ++ mark :: behind)

theorem pad_add (left right : Nat) : pad (left + right) = pad left ++ pad right :=
  (List.replicate_append_replicate).symm

theorem isBreak_eq_false_of_mem_pad (member : character ∈ pad indent) :
    isBreak character = false := by
  rw [List.eq_of_mem_replicate member]
  decide

theorem pad_append_ne_pad (left : column < indent) (noSpace : mark ≠ ' ') :
    pad column ++ mark :: behind ≠ pad indent ++ rest := by
  intro same
  obtain ⟨further, rfl⟩ := Nat.exists_eq_add_of_lt left
  rw [Nat.add_assoc, pad_add, List.append_assoc] at same
  have sameBehind := List.append_cancel_left same
  rw [pad, List.replicate_succ, List.cons_append] at sameBehind
  exact noSpace (List.cons.inj sameBehind).1

theorem pad_append_ne_break (unbroken : isBreak mark = false) (broken : isBreak character = true) :
    pad column ++ mark :: behind ≠ character :: rest := by
  intro same
  have inFront : character ∈ pad column ∨ character = mark := by
    cases column with
    | zero =>
        exact .inr (List.cons.inj same).1.symm
    | succ column =>
        rw [pad, List.replicate_succ, List.cons_append] at same
        rw [← (List.cons.inj same).1]
        exact .inl (List.mem_replicate.mpr ⟨Nat.succ_ne_zero column, rfl⟩)
  rcases inFront with inPad | rfl
  · rw [isBreak_eq_false_of_mem_pad inPad] at broken
    cases broken
  · rw [unbroken] at broken
    cases broken

theorem EndsBlock.ne_pad (ends : EndsBlock indent rest) (character : Char) (behind : Text) :
    rest ≠ pad indent ++ character :: behind := by
  cases ends with
  | nothing =>
      simp
  | line left noSpace unbroken =>
      exact pad_append_ne_pad left noSpace

theorem EndsBlock.ne_break (ends : EndsBlock indent rest) (broken : isBreak character = true) :
    rest ≠ character :: behind := by
  cases ends with
  | nothing =>
      simp
  | line left noSpace unbroken =>
      exact pad_append_ne_break unbroken broken

/-- The lines of a scalar: line breaks stand as they are, every other character in a form that
begins with it, and the first of a line is indented. -/
structure IndentsLines (indent : Nat) (write : Char → Text) (body : Bool → Text → Text) : Prop where
  onBreak : ∀ {afterBreak character text}, isBreak character = true →
    body afterBreak (character :: text) = character :: body true text
  onVisible : ∀ {afterBreak character text}, isBreak character = false →
    body afterBreak (character :: text) =
      pad (if afterBreak then indent else 0) ++ (write character ++ body false text)
  begins : ∀ character, ∃ more, write character = character :: more

namespace IndentsLines

variable {write : Char → Text} {body : Bool → Text → Text}

theorem write_append_inj (lines : IndentsLines indent write body) {other : Char}
    (same : write character ++ rest = write other ++ others) :
    character = other ∧ rest = others := by
  obtain ⟨more, written⟩ := lines.begins character
  obtain ⟨otherMore, otherWritten⟩ := lines.begins other
  have sameCharacter : character = other := by
    rw [written, otherWritten] at same
    exact (List.cons.inj same).1
  subst sameCharacter
  exact ⟨rfl, List.append_cancel_left same⟩

theorem visible_ne_break (lines : IndentsLines indent write body)
    (unbroken : isBreak character = false) (broken : isBreak mark = true) :
    body afterBreak (character :: text) ++ rest ≠ mark :: others := by
  obtain ⟨more, written⟩ := lines.begins character
  rw [lines.onVisible unbroken, written, List.append_assoc]
  exact pad_append_ne_break unbroken broken

/-- Lines are told from what stands behind them if that can be told from a further character, after
the texts that have been admitted. -/
theorem append_inj (lines : IndentsLines indent write body) (Admits : Bool → Text → Prop)
    (inner : ∀ {afterBreak character text}, Admits afterBreak (character :: text) →
      Admits (isBreak character) text)
    (apart : ∀ {afterBreak character text behind}, Admits afterBreak [] →
      body afterBreak [] ++ rest ≠ body afterBreak (character :: text) ++ behind)
    (othersApart : ∀ {afterBreak character text behind}, Admits afterBreak [] →
      body afterBreak [] ++ others ≠ body afterBreak (character :: text) ++ behind)
    (admitted : Admits afterBreak first) (otherAdmitted : Admits afterBreak second)
    (same : body afterBreak first ++ rest = body afterBreak second ++ others) :
    first = second ∧ rest = others := by
  -- Both texts are read character by character, and the state says whether a line begins.
  induction first generalizing second afterBreak with
  | nil =>
      cases second with
      | nil =>
          exact ⟨rfl, List.append_cancel_left same⟩
      | cons other otherBehind =>
          exact absurd same (apart admitted)
  | cons character behind inductionHypothesis =>
      cases second with
      | nil =>
          exact absurd same.symm (othersApart otherAdmitted)
      | cons other otherBehind =>
          have behindAdmitted := inner admitted
          have otherBehindAdmitted := inner otherAdmitted
          cases broken : isBreak character with
          | true =>
              cases otherBroken : isBreak other with
              | true =>
                  rw [lines.onBreak broken, lines.onBreak otherBroken] at same
                  rw [broken] at behindAdmitted
                  rw [otherBroken] at otherBehindAdmitted
                  obtain ⟨rfl, sameBehind⟩ := List.cons.inj same
                  obtain ⟨rfl, sameRest⟩ :=
                    inductionHypothesis behindAdmitted otherBehindAdmitted sameBehind
                  exact ⟨rfl, sameRest⟩
              | false =>
                  rw [lines.onBreak broken] at same
                  exact absurd same.symm (lines.visible_ne_break otherBroken broken)
          | false =>
              cases otherBroken : isBreak other with
              | true =>
                  rw [lines.onBreak otherBroken] at same
                  exact absurd same (lines.visible_ne_break broken otherBroken)
              | false =>
                  rw [lines.onVisible broken, lines.onVisible otherBroken, List.append_assoc,
                    List.append_assoc, List.append_assoc, List.append_assoc] at same
                  rw [broken] at behindAdmitted
                  rw [otherBroken] at otherBehindAdmitted
                  obtain ⟨rfl, sameBehind⟩ :=
                    lines.write_append_inj (List.append_cancel_left same)
                  obtain ⟨rfl, sameRest⟩ :=
                    inductionHypothesis behindAdmitted otherBehindAdmitted sameBehind
                  exact ⟨rfl, sameRest⟩

end IndentsLines

theorem indentsLines_literalBody (indent : Nat) :
    IndentsLines indent (fun character => [character]) (literalBody indent) where
  onBreak := by
    intro afterBreak character text broken
    rw [literalBody, if_pos broken]
  onVisible := by
    intro afterBreak character text unbroken
    rw [literalBody, if_neg (by simp [unbroken])]
    cases afterBreak <;> rfl
  begins := fun character => ⟨[], rfl⟩

/-- Does a text that begins behind a line break, or not, end behind one? -/
def endsBroken : (afterBreak : Bool) → Text → Bool
  | afterBreak, [] => afterBreak
  | _, character :: rest => endsBroken (isBreak character) rest

/-- Behind a block no line of the block can stand. -/
theorem EndsBlock.ne_literalBody (ends : EndsBlock indent rest) :
    rest ≠ literalBody indent true (character :: text) ++ others := by
  cases broken : isBreak character with
  | true =>
      rw [(indentsLines_literalBody indent).onBreak broken]
      exact ends.ne_break broken
  | false =>
      rw [(indentsLines_literalBody indent).onVisible broken, List.append_assoc]
      exact ends.ne_pad character _

/-- The lines of a block are told from what stands behind it by where that begins. -/
theorem literalBody_append_inj
    (firstEnds : endsBroken afterBreak first = true)
    (secondEnds : endsBroken afterBreak second = true)
    (ends : EndsBlock indent rest) (othersEnd : EndsBlock indent others)
    (same :
      literalBody indent afterBreak first ++ rest =
        literalBody indent afterBreak second ++ others) :
    first = second ∧ rest = others := by
  have apart {behind : Text} (behindEnds : EndsBlock indent behind)
      {afterBreak : Bool} {character : Char} {text further : Text}
      (begins : endsBroken afterBreak [] = true) :
      literalBody indent afterBreak [] ++ behind ≠
        literalBody indent afterBreak (character :: text) ++ further := by
    have begun : afterBreak = true := begins
    rw [begun]
    exact behindEnds.ne_literalBody
  exact (indentsLines_literalBody indent).append_inj
    (fun afterBreak text => endsBroken afterBreak text = true) (fun inside => inside)
    (apart ends) (apart othersEnd) firstEnds secondEnds same

/-- A text with its last line ended. -/
def endedText (text : Text) : Text :=
  text ++ if endsLine text then [] else ['\n']

theorem endsBroken_append_singleton (afterBreak : Bool) (text : Text) (last : Char) :
    endsBroken afterBreak (text ++ [last]) = isBreak last := by
  induction text generalizing afterBreak with
  | nil =>
      rfl
  | cons character behind inductionHypothesis =>
      exact inductionHypothesis (isBreak character)

theorem endsBroken_endedText (afterBreak : Bool) (text : Text) :
    endsBroken afterBreak (endedText text) = true := by
  unfold endedText
  cases ended : endsLine text with
  | true =>
      rw [endsLine, Option.any_eq_true] at ended
      obtain ⟨last, lastEq, broken⟩ := ended
      obtain ⟨front, rfl⟩ := List.getLast?_eq_some_iff.mp lastEq
      rw [if_pos rfl, List.append_nil, endsBroken_append_singleton, broken]
  | false =>
      rw [if_neg Bool.false_ne_true, endsBroken_append_singleton]
      decide

theorem literalBody_append_feed (indent : Nat) (afterBreak : Bool) (text : Text) :
    literalBody indent afterBreak (text ++ ['\n']) = literalBody indent afterBreak text ++ ['\n'] := by
  induction text generalizing afterBreak with
  | nil =>
      rfl
  | cons character behind inductionHypothesis =>
      have lines := indentsLines_literalBody indent
      rw [List.cons_append]
      cases broken : isBreak character with
      | true =>
          rw [lines.onBreak broken, lines.onBreak broken, inductionHypothesis, List.cons_append]
      | false =>
          rw [lines.onVisible broken, lines.onVisible broken, inductionHypothesis,
            List.append_assoc, List.append_assoc]

theorem literalBody_endedText (indent : Nat) (afterBreak : Bool) (text : Text) :
    literalBody indent afterBreak (endedText text) =
      literalBody indent afterBreak text ++ if endsLine text then [] else ['\n'] := by
  unfold endedText
  cases endsLine text with
  | true =>
      simp
  | false =>
      exact literalBody_append_feed indent afterBreak text

theorem isBreak_eq_false_of_mem_literalMarks (member : character ∈ literalMarks text) :
    isBreak character = false := by
  have marks : ['2', '-', '+'].any isBreak = false := by
    decide
  apply isBreak_eq_false_of_mem marks
  rw [literalMarks, List.mem_append] at member
  rcases member with atBegin | atEnd
  · split at atBegin
    · rw [List.mem_singleton.mp atBegin]
      decide
    · cases atBegin
  · grind

theorem feed_not_mem_literalMarks (text : Text) : '\n' ∉ literalMarks text := by
  intro member
  exact absurd (isBreak_eq_false_of_mem_literalMarks member) (by decide)

/-- The marks of a block say whether its text ends its last line. -/
theorem dash_mem_literalMarks_iff : '-' ∈ literalMarks text ↔ endsLine text = false := by
  have noDash (marked : Bool) : '-' ∉ (if marked then ['2'] else []) := by
    cases marked <;> decide
  rw [literalMarks, List.mem_append, endsLine, List.getLast?_eq_head?_reverse]
  cases text.reverse with
  | nil =>
      simp
  | cons last before =>
      cases broken : isBreak last with
      | true =>
          cases before.head?.all isBreak <;> simp [broken, noDash]
      | false =>
          simp [broken]

/-- What is written for a block. -/
theorem literal_append_inj
    (ends : EndsBlock indent rest) (othersEnd : EndsBlock indent others)
    (same :
      literalMarks first ++ '\n' :: literalBody indent true (endedText first) ++ rest =
        literalMarks second ++ '\n' :: literalBody indent true (endedText second) ++ others) :
    first = second ∧ rest = others := by
  rw [List.append_assoc, List.append_assoc, List.cons_append, List.cons_append] at same
  obtain ⟨sameMarks, sameBody⟩ :=
    Text.append_mark_inj (feed_not_mem_literalMarks first) (feed_not_mem_literalMarks second) same
  obtain ⟨sameEnded, sameRest⟩ :=
    literalBody_append_inj (endsBroken_endedText true first) (endsBroken_endedText true second)
      ends othersEnd sameBody
  have sameEnd : endsLine first = endsLine second := by
    have sameDash : '-' ∈ literalMarks first ↔ '-' ∈ literalMarks second := by
      rw [sameMarks]
    rw [dash_mem_literalMarks_iff, dash_mem_literalMarks_iff] at sameDash
    exact Bool.eq_iff_iff.mpr (by simpa using not_congr sameDash)
  rw [endedText, endedText, sameEnd] at sameEnded
  exact ⟨List.append_cancel_right sameEnded, sameRest⟩

/-- A character between single quotes. -/
def singleQuotedCharacter (character : Char) : Text :=
  if character = '\'' then ['\'', '\''] else [character]

theorem indentsLines_singleQuotedBody (indent : Nat) :
    IndentsLines indent singleQuotedCharacter (singleQuotedBody indent) where
  onBreak := by
    intro afterBreak character text broken
    rw [singleQuotedBody, if_pos broken]
  onVisible := by
    intro afterBreak character text unbroken
    rw [singleQuotedBody, if_neg (by simp [unbroken]), List.append_assoc]
    cases afterBreak <;> rfl
  begins := by
    intro character
    unfold singleQuotedCharacter
    split
    · rename_i quote
      exact ⟨['\''], by rw [quote]⟩
    · exact ⟨[], rfl⟩

theorem singleQuotedBody_nil :
    singleQuotedBody indent afterBreak [] = pad (if afterBreak then indent else 0) := by
  cases afterBreak <;> rfl

/-- A quote that ends a scalar stands before the end of the line, and not before another quote. -/
theorem closingQuote_ne_singleQuotedCharacter :
    '\'' :: '\n' :: rest ≠ singleQuotedCharacter character ++ others := by
  unfold singleQuotedCharacter
  split
  · intro same
    exact absurd (List.cons.inj (List.cons.inj same).2).1 (by decide)
  · rename_i noQuote
    intro same
    exact noQuote (List.cons.inj same).1.symm

theorem singleQuotedBody_nil_ne_cons :
    singleQuotedBody indent afterBreak [] ++ '\'' :: '\n' :: rest ≠
      singleQuotedBody indent afterBreak (character :: text) ++ others := by
  have lines := indentsLines_singleQuotedBody indent
  rw [singleQuotedBody_nil]
  cases broken : isBreak character with
  | true =>
      rw [lines.onBreak broken]
      exact pad_append_ne_break (by decide) broken
  | false =>
      rw [lines.onVisible broken, List.append_assoc, List.append_assoc]
      intro same
      exact closingQuote_ne_singleQuotedCharacter (List.append_cancel_left same)

theorem singleQuotedBody_append_inj
    (same :
      singleQuotedBody indent afterBreak first ++ '\'' :: '\n' :: rest =
        singleQuotedBody indent afterBreak second ++ '\'' :: '\n' :: others) :
    first = second ∧ rest = others := by
  obtain ⟨sameText, sameEnd⟩ :=
    (indentsLines_singleQuotedBody indent).append_inj
      (fun _ _ => True) (fun _ => trivial) (fun _ => singleQuotedBody_nil_ne_cons)
      (fun _ => singleQuotedBody_nil_ne_cons) trivial trivial same
  exact ⟨sameText, (List.cons.inj (List.cons.inj sameEnd).2).2⟩

/-! ## Styles -/

theorem of_style_eq_plain (styleEq : style text = .plain) :
    '\n' ∉ text ∧ needsQuotes text = false ∧ allowsPlain text = true := by
  unfold style at styleEq
  split at styleEq
  · split at styleEq <;> cases styleEq
  · rename_i noFeed
    split at styleEq
    · rename_i bare
      simp only [Bool.and_eq_true, Bool.not_eq_true'] at bare
      exact ⟨noFeed, bare.1, bare.2⟩
    · split at styleEq <;> cases styleEq

theorem mem_of_style_eq_literal (styleEq : style text = .literal) : '\n' ∈ text := by
  unfold style at styleEq
  split at styleEq
  · assumption
  · split at styleEq
    · cases styleEq
    · split at styleEq <;> cases styleEq

/-- A plain text begins with a character that has no meaning there. -/
theorem head?_of_style_eq_plain (styleEq : style text = .plain) :
    ∃ character, text.head? = some character ∧ character ∉ indicators := by
  obtain ⟨-, unquoted, allowed⟩ := of_style_eq_plain styleEq
  cases text with
  | nil =>
      cases unquoted
  | cons character behind =>
      simp only [allowsPlain, beginsWithIndicator, Bool.and_eq_true, Bool.not_eq_true',
        Bool.or_eq_false_iff, decide_eq_false_iff_not] at allowed
      exact ⟨character, rfl, by grind⟩

/-- The style in which a scalar is written, by its first character. -/
def styleAt (text : Text) : Style :=
  match text.head? with
  | some '|' => .literal
  | some '\'' => .singleQuoted
  | some '"' => .doubleQuoted
  | _ => .plain

theorem styleAt_scalarText (indent : Nat) (text rest : Text) :
    styleAt (scalarText indent text ++ rest) = style text := by
  cases styleEq : style text with
  | plain =>
      obtain ⟨character, headEq, plainMark⟩ := head?_of_style_eq_plain styleEq
      have begins : (scalarText indent text ++ rest).head? = some character := by
        simp only [scalarText, styleEq, List.append_assoc, List.head?_append, headEq,
          Option.some_or]
      have notBar : character ≠ '|' := by
        rintro rfl
        exact plainMark (by decide)
      have notSingle : character ≠ '\'' := by
        rintro rfl
        exact plainMark (by decide)
      have notDouble : character ≠ '"' := by
        rintro rfl
        exact plainMark (by decide)
      rw [styleAt, begins]
      split
      · exact absurd (Option.some.inj ‹_›) notBar
      · exact absurd (Option.some.inj ‹_›) notSingle
      · exact absurd (Option.some.inj ‹_›) notDouble
      · rfl
  | singleQuoted =>
      simp only [scalarText, styleEq]
      rfl
  | doubleQuoted =>
      simp only [scalarText, styleEq]
      rfl
  | literal =>
      simp only [scalarText, styleEq]
      rfl

/-- A scalar is determined by what is written, and so is what stands behind it. -/
theorem scalarText_append_inj
    (ends : EndsBlock indent rest) (othersEnd : EndsBlock indent others)
    (same : scalarText indent first ++ rest = scalarText indent second ++ others) :
    first = second ∧ rest = others := by
  have sameStyle : style second = style first := by
    rw [← styleAt_scalarText indent first rest, ← styleAt_scalarText indent second others, same]
  cases styleEq : style first with
  | plain =>
      have otherStyleEq := sameStyle.trans styleEq
      simp only [scalarText, styleEq, otherStyleEq, List.append_assoc,
        List.singleton_append] at same
      exact Text.append_mark_inj (of_style_eq_plain styleEq).1 (of_style_eq_plain otherStyleEq).1
        same
  | singleQuoted =>
      have otherStyleEq := sameStyle.trans styleEq
      simp only [scalarText, styleEq, otherStyleEq, List.cons_append, List.append_assoc,
        List.nil_append, List.cons.injEq, true_and] at same
      exact singleQuotedBody_append_inj same
  | doubleQuoted =>
      have otherStyleEq := sameStyle.trans styleEq
      simp only [scalarText, styleEq, otherStyleEq, List.cons_append, List.append_assoc,
        List.nil_append, List.cons.injEq, true_and] at same
      obtain ⟨sameText, sameEnd⟩ := doubleQuoted_append_inj same
      exact ⟨sameText, (List.cons.inj sameEnd).2⟩
  | literal =>
      have otherStyleEq := sameStyle.trans styleEq
      apply literal_append_inj ends othersEnd
      rw [literalBody_endedText, literalBody_endedText]
      simpa only [scalarText, styleEq, otherStyleEq, List.cons_append, List.append_assoc,
        List.cons.injEq, true_and] using same

end RunManifest.Yaml
