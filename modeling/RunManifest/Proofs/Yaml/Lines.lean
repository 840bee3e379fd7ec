import RunManifest.Proofs.Yaml.Shape

/-!
# Lines of documents

No line of a document of a known shape can be taken for a mark between documents, whatever its
strings are and whichever characters are taken to end a line.  Every line but those of keys and of
items begins with a space or is empty, because strings of several lines are indented.
-/

namespace RunManifest.Yaml

variable {indent : Nat} {afterBreak : Bool} {character : Char} {shape : Shape} {value : Value}
variable {text rest line : Text} {items : List Value} {fields : List (Text × Value)}
variable {shapes : List (Key × Shape)}

def documentMarks : List Text :=
  ["---", "..."].map String.toList

/-- Does a text begin in a way in which no mark between documents does? -/
inductive Harmless : Text → Prop
  | nothing :
      Harmless []
  | other {mark : Char} {behind : Text} (noDash : mark ≠ '-') (noDot : mark ≠ '.') :
      Harmless (mark :: behind)
  | item {behind : Text} :
      Harmless ('-' :: ' ' :: behind)

theorem Harmless.append (harmless : Harmless text) (restHarmless : Harmless rest) :
    Harmless (text ++ rest) := by
  cases harmless with
  | nothing => exact restHarmless
  | other noDash noDot => exact .other noDash noDot
  | item => exact .item

theorem harmless_pad_append (indented : 0 < indent) : Harmless (pad indent ++ rest) := by
  obtain ⟨further, rfl⟩ := Nat.exists_eq_succ_of_ne_zero (Nat.ne_of_gt indented)
  rw [pad, List.replicate_succ, List.cons_append]
  exact .other (by decide) (by decide)

theorem harmless_of_isBreak (broken : isBreak character = true) :
    Harmless (character :: rest) := by
  apply Harmless.other
  all_goals
    rintro rfl
    exact absurd broken (by decide)

theorem not_harmless_of_mem_documentMarks (mark : line ∈ documentMarks) :
    ¬ Harmless (line ++ rest) := by
  simp only [documentMarks, List.map_cons, List.map_nil, List.mem_cons, List.not_mem_nil,
    or_false] at mark
  intro harmless
  rcases mark with rfl | rfl
  · cases harmless with
    | other noDash noDot => exact noDash rfl
  · cases harmless with
    | other noDash noDot => exact noDot rfl

/-- Does every line of a text but the first begin harmlessly? -/
def Quiet : Text → Prop
  | [] => True
  | character :: rest => (isBreak character = true → Harmless rest) ∧ Quiet rest

theorem quiet_append (quiet : Quiet text) (restQuiet : Quiet rest) (harmless : Harmless rest) :
    Quiet (text ++ rest) := by
  induction text with
  | nil =>
      exact restQuiet
  | cons character behind inductionHypothesis =>
      constructor
      · intro broken
        exact (quiet.1 broken).append harmless
      · exact inductionHypothesis quiet.2

theorem quiet_cons (unbroken : isBreak character = false) (quiet : Quiet rest) :
    Quiet (character :: rest) := by
  constructor
  · intro broken
    rw [unbroken] at broken
    cases broken
  · exact quiet

theorem quiet_append_of_unbroken (unbroken : ∀ character ∈ text, isBreak character = false)
    (quiet : Quiet rest) : Quiet (text ++ rest) := by
  induction text with
  | nil =>
      exact quiet
  | cons character behind inductionHypothesis =>
      have unbrokens := List.forall_mem_cons.mp unbroken
      exact quiet_cons unbrokens.1 (inductionHypothesis unbrokens.2)

theorem quiet_line (text : Text) (unbroken : text.any isBreak = false) :
    Quiet (text ++ ['\n']) :=
  quiet_append_of_unbroken (fun _ => isBreak_eq_false_of_mem unbroken)
    ⟨fun _ => .nothing, trivial⟩

theorem Quiet.behind {front : Text} (quiet : Quiet (front ++ rest)) : Quiet rest := by
  induction front with
  | nil =>
      exact quiet
  | cons first front inductionHypothesis =>
      exact inductionHypothesis quiet.2

namespace IndentsLines

variable {write : Char → Text} {body : Bool → Text → Text}

theorem harmless (lines : IndentsLines indent write body) (indented : 0 < indent)
    (ended : Harmless (body true [])) (text : Text) : Harmless (body true text) := by
  cases text with
  | nil =>
      exact ended
  | cons character behind =>
      cases broken : isBreak character with
      | true =>
          rw [lines.onBreak broken]
          exact harmless_of_isBreak broken
      | false =>
          rw [lines.onVisible broken]
          exact harmless_pad_append indented

theorem quiet (lines : IndentsLines indent write body) (indented : 0 < indent)
    (ended : Harmless (body true [])) (endsQuiet : ∀ afterBreak, Quiet (body afterBreak []))
    (unbroken : ∀ character, isBreak character = false →
      ∀ part ∈ write character, isBreak part = false)
    (afterBreak : Bool) (text : Text) : Quiet (body afterBreak text) := by
  induction text generalizing afterBreak with
  | nil =>
      exact endsQuiet afterBreak
  | cons character behind inductionHypothesis =>
      cases broken : isBreak character with
      | true =>
          rw [lines.onBreak broken]
          exact ⟨fun _ => lines.harmless indented ended behind, inductionHypothesis true⟩
      | false =>
          rw [lines.onVisible broken]
          apply quiet_append_of_unbroken fun _ => isBreak_eq_false_of_mem_pad
          exact quiet_append_of_unbroken (unbroken character broken) (inductionHypothesis false)

end IndentsLines

theorem harmless_literalBody (indented : 0 < indent) (text : Text) :
    Harmless (literalBody indent true text) :=
  (indentsLines_literalBody indent).harmless indented .nothing text

theorem quiet_literalBody (indented : 0 < indent) (afterBreak : Bool) (text : Text) :
    Quiet (literalBody indent afterBreak text) := by
  apply (indentsLines_literalBody indent).quiet indented .nothing (fun _ => trivial)
  intro character unbroken part member
  rw [List.mem_singleton.mp member]
  exact unbroken

theorem quiet_singleQuotedBody (indented : 0 < indent) (afterBreak : Bool) (text : Text) :
    Quiet (singleQuotedBody indent afterBreak text) := by
  apply (indentsLines_singleQuotedBody indent).quiet indented
  · rw [singleQuotedBody_nil, ← List.append_nil (pad _)]
    exact harmless_pad_append indented
  · intro afterBreak
    rw [singleQuotedBody_nil, ← List.append_nil (pad _)]
    exact quiet_append_of_unbroken (fun _ => isBreak_eq_false_of_mem_pad) trivial
  · intro character unbroken part member
    unfold singleQuotedCharacter at member
    split at member
    · have quotes : ['\'', '\''].any isBreak = false := by
        decide
      exact isBreak_eq_false_of_mem quotes member
    · rw [List.mem_singleton.mp member]
      exact unbroken

theorem quiet_scalarText (indented : 0 < indent) (text : Text) :
    Quiet (scalarText indent text) := by
  unfold scalarText
  cases styleEq : style text with
  | plain =>
      obtain ⟨-, -, allowed⟩ := of_style_eq_plain styleEq
      simp only [allowsPlain, Bool.and_eq_true, Bool.not_eq_true'] at allowed
      exact quiet_line text allowed.1.2
  | singleQuoted =>
      have quoted : Quiet (singleQuotedBody indent false text ++ ['\'', '\n']) := by
        apply quiet_append (quiet_singleQuotedBody indented false text)
        · exact quiet_line ['\''] (by decide)
        · exact .other (by decide) (by decide)
      exact quiet_cons (by decide) quoted
  | doubleQuoted =>
      have quoted : Quiet (text.flatMap doubleQuotedCharacter ++ ['"', '\n']) := by
        apply quiet_append_of_unbroken isBreak_eq_false_of_mem_doubleQuoted
        exact quiet_line ['"'] (by decide)
      exact quiet_cons (by decide) quoted
  | literal =>
      have lines : Quiet ('\n' :: literalBody indent true (endedText text)) :=
        ⟨fun _ => harmless_literalBody indented _, quiet_literalBody indented true _⟩
      have marked : Quiet (literalMarks text ++ '\n' :: literalBody indent true (endedText text)) :=
        quiet_append_of_unbroken (fun _ => isBreak_eq_false_of_mem_literalMarks) lines
      rw [literalBody_endedText] at marked
      have barred : Quiet ('|' :: _) := quiet_cons (by decide) marked
      simpa using barred

theorem Harmless.indented (harmless : Harmless rest) (indent : Nat) :
    Harmless (pad indent ++ rest) := by
  cases indent with
  | zero =>
      exact harmless
  | succ indent =>
      exact harmless_pad_append (Nat.succ_pos indent)

theorem harmless_furtherItems (indent : Nat) (items : List Value) :
    Harmless (furtherItems indent items) := by
  cases items with
  | nil =>
      exact .nothing
  | cons item items =>
      obtain ⟨behind, dashed⟩ := exists_afterDash_eq_cons (indent + 2) item
      rw [furtherItems_cons, dashed]
      exact Harmless.item.indented indent

theorem harmless_fieldsText (fit : FieldsFit shapes fields) :
    Harmless (fieldsText indent fields) := by
  cases fit with
  | nil =>
      rw [fieldsText]
      exact .nothing
  | @cons key _ value _ behind first others =>
      obtain ⟨letter, letters, textEq, alpha⟩ := key.exists_eq_cons
      rw [fieldsText_cons, textEq]
      exact .other (ne_of_isAlpha alpha (by decide)) (ne_of_isAlpha alpha (by decide))

theorem harmless_furtherFields (fit : FieldsFit shapes fields) :
    Harmless (furtherFields indent fields) := by
  cases fields with
  | nil =>
      exact .nothing
  | cons field fields =>
      exact (harmless_fieldsText fit).indented indent

/-- Are values of a shape written in lines that begin harmlessly, wherever they stand? -/
structure Calm (shape : Shape) : Prop where
  afterDash : ∀ {indent value}, Fits shape value → 0 < indent → Quiet (afterDash indent value)
  afterKey : ∀ {indent value}, Fits shape value → Quiet (afterKey indent value)

theorem Calm.quiet_furtherItems (calm : Calm shape) (fit : ∀ item ∈ items, Fits shape item) :
    Quiet (furtherItems indent items) := by
  induction items with
  | nil =>
      trivial
  | cons item items inductionHypothesis =>
      have fits := List.forall_mem_cons.mp fit
      rw [furtherItems_cons]
      apply quiet_append_of_unbroken fun _ => isBreak_eq_false_of_mem_pad
      apply quiet_cons (by decide)
      apply quiet_append (calm.afterDash fits.1 (by omega)) (inductionHypothesis fits.2)
      exact harmless_furtherItems indent items

theorem calm_text : Calm .text where
  afterDash := by
    rintro indent _ ⟨⟩ indented
    rw [Yaml.afterDash]
    exact quiet_cons (by decide) (quiet_scalarText indented _)
  afterKey := by
    rintro indent _ ⟨⟩
    rw [Yaml.afterKey]
    exact quiet_cons (by decide) (quiet_scalarText (Nat.succ_pos _) _)

theorem quiet_decimal (number : Nat) : Quiet (Text.decimal number ++ ['\n']) := by
  apply quiet_line
  rw [List.any_eq_false]
  intro character member
  have digit := Text.isDigit_of_mem_decimal member
  exact Bool.eq_false_iff.mp (isBreak_eq_false_of Char.isDigit digit (by decide))

theorem calm_number : Calm .number where
  afterDash := by
    rintro indent _ ⟨⟩ indented
    rw [Yaml.afterDash]
    exact quiet_cons (by decide) (quiet_decimal _)
  afterKey := by
    rintro indent _ ⟨⟩
    rw [Yaml.afterKey]
    exact quiet_cons (by decide) (quiet_decimal _)

theorem calm_list (each : Calm shape) : Calm (.list shape) where
  afterDash := by
    rintro indent _ fit indented
    obtain ⟨items, fits, rfl⟩ := fit.exists_list
    cases items with
    | nil =>
        rw [Yaml.afterDash]
        exact quiet_line " []".toList (by decide)
    | cons item items =>
        have further : Quiet (furtherItems indent (item :: items)) := each.quiet_furtherItems fits
        rw [Yaml.afterDash]
        exact quiet_cons (by decide) further.behind
  afterKey := by
    rintro indent _ fit
    obtain ⟨items, fits, rfl⟩ := fit.exists_list
    cases items with
    | nil =>
        rw [Yaml.afterKey]
        exact quiet_line " []".toList (by decide)
    | cons item items =>
        rw [Yaml.afterKey]
        exact ⟨fun _ => harmless_furtherItems indent (item :: items), each.quiet_furtherItems fits⟩

theorem quiet_furtherFields_cons {key : Key} (calm : Calm shape)
    (others : ∀ {fields}, FieldsFit shapes fields → Quiet (furtherFields indent fields))
    (fit : FieldsFit ((key, shape) :: shapes) fields) : Quiet (furtherFields indent fields) := by
  obtain ⟨value, behind, rfl, first, fits⟩ := fit.exists_cons
  rw [furtherFields_cons]
  apply quiet_append_of_unbroken fun _ => isBreak_eq_false_of_mem_pad
  apply quiet_append_of_unbroken
  · exact fun _ member => isBreak_eq_false_of_isAlpha (List.all_eq_true.mp key.letters _ member)
  · apply quiet_cons (by decide)
    exact quiet_append (calm.afterKey first) (others fits) (harmless_furtherFields fits)

theorem calm_mapping
    (calm : ∀ {indent fields}, FieldsFit shapes fields → Quiet (furtherFields indent fields)) :
    Calm (.mapping shapes) where
  afterDash := by
    rintro indent _ fit indented
    obtain ⟨fields, fits, rfl⟩ := fit.exists_mapping
    cases fields with
    | nil =>
        rw [Yaml.afterDash]
        exact quiet_line " \x7b\x7d".toList (by decide)
    | cons field fields =>
        have further : Quiet (furtherFields indent (field :: fields)) := calm fits
        rw [Yaml.afterDash]
        exact quiet_cons (by decide) further.behind
  afterKey := by
    rintro indent _ fit
    obtain ⟨fields, fits, rfl⟩ := fit.exists_mapping
    cases fields with
    | nil =>
        rw [Yaml.afterKey]
        exact quiet_line " \x7b\x7d".toList (by decide)
    | cons field fields =>
        have further : Quiet (furtherFields (indent + 2) (field :: fields)) := calm fits
        rw [Yaml.afterKey]
        have harmless : Harmless (furtherFields (indent + 2) (field :: fields)) :=
          harmless_furtherFields fits
        exact ⟨fun _ => harmless, further⟩

mutual

theorem calm_of_shape : ∀ shape, Calm shape
  | .text => calm_text
  | .number => calm_number
  | .list item => calm_list (calm_of_shape item)
  | .mapping fields => calm_mapping (quiet_furtherFields fields)

theorem quiet_furtherFields : ∀ (shapes : List (Key × Shape)) {indent : Nat}
    {fields : List (Text × Value)}, FieldsFit shapes fields → Quiet (furtherFields indent fields)
  | [], _, _, fit => by
      rw [fit.eq_nil]
      trivial
  | (_, shape) :: shapes, _, _, fit =>
      quiet_furtherFields_cons (calm_of_shape shape) (quiet_furtherFields shapes) fit

end

/-! ## Lines -/

theorem quiet_documentText (fit : FieldsFit shapes fields) : Quiet (documentText fields) := by
  cases fields with
  | nil =>
      rw [documentText, fieldsText]
      trivial
  | cons field fields =>
      have further : Quiet (furtherFields 0 (field :: fields)) := quiet_furtherFields shapes fit
      exact further.behind

/-- The first line of a text begins it, and every other stands behind the end of a line. -/
theorem splitOnP_eq_cons {cut : Char → Bool} {first : Text} {others : List Text}
    (lines : text.splitOnP cut = first :: others) :
    (∃ behind, text = first ++ behind) ∧
      ∀ line ∈ others, ∃ front mark behind,
        text = front ++ mark :: (line ++ behind) ∧ cut mark = true := by
  induction text generalizing first others with
  | nil =>
      rw [List.splitOnP_nil, List.cons.injEq] at lines
      obtain ⟨rfl, rfl⟩ := lines
      exact ⟨⟨[], rfl⟩, fun line member => absurd member List.not_mem_nil⟩
  | cons character text inductionHypothesis =>
      obtain ⟨next, behindNext, textLines⟩ :=
        List.exists_cons_of_ne_nil (List.splitOnP_ne_nil cut text)
      obtain ⟨⟨behind, begins⟩, further⟩ := inductionHypothesis textLines
      have later : ∀ line ∈ behindNext, ∃ front mark behind,
          character :: text = front ++ mark :: (line ++ behind) ∧ cut mark = true := by
        intro line member
        obtain ⟨front, mark, rest, textEq, ends⟩ := further line member
        exact ⟨character :: front, mark, rest, by rw [textEq]; rfl, ends⟩
      -- A cut begins a new first line; any other character belongs to the one behind it.
      rw [List.splitOnP_cons_eq_if_modifyHead, textLines] at lines
      by_cases ends : cut character = true
      · rw [if_pos ends, List.cons.injEq] at lines
        obtain ⟨rfl, rfl⟩ := lines
        refine ⟨⟨character :: text, rfl⟩, ?_⟩
        intro line member
        rcases List.mem_cons.mp member with rfl | inRest
        · exact ⟨[], character, behind, by rw [begins]; rfl, ends⟩
        · exact later line inRest
      · rw [if_neg ends, List.modifyHead_cons, List.cons.injEq] at lines
        obtain ⟨rfl, rfl⟩ := lines
        exact ⟨⟨behind, by rw [begins]; rfl⟩, later⟩

/-- No line of a document is a mark between documents, whichever line breaks end a line. -/
theorem not_mem_splitOnP_documentText {cut : Char → Bool}
    (breaks : ∀ character, cut character = true → isBreak character = true)
    (fit : FieldsFit shapes fields) (mark : line ∈ documentMarks) :
    line ∉ (documentText fields).splitOnP cut := by
  obtain ⟨first, others, lines⟩ :=
    List.exists_cons_of_ne_nil (List.splitOnP_ne_nil cut (documentText fields))
  obtain ⟨⟨behind, begins⟩, further⟩ := splitOnP_eq_cons lines
  rw [lines, List.mem_cons, not_or]
  constructor
  · rintro rfl
    have harmless : Harmless (documentText fields) := harmless_fieldsText fit
    rw [begins] at harmless
    exact not_harmless_of_mem_documentMarks mark harmless
  · intro member
    obtain ⟨front, feed, rest, textEq, ends⟩ := further line member
    have quiet := quiet_documentText fit
    rw [textEq] at quiet
    exact not_harmless_of_mem_documentMarks mark (quiet.behind.1 (breaks feed ends))

/-- Only a string of several lines can end its text with another line break. -/
theorem feed_suffix_scalarText (single : '\n' ∉ text) : ['\n'] <:+ scalarText indent text := by
  unfold scalarText
  cases styleEq : style text with
  | plain =>
      exact List.suffix_append text ['\n']
  | singleQuoted =>
      exact ⟨'\'' :: singleQuotedBody indent false text ++ ['\''], by simp⟩
  | doubleQuoted =>
      exact ⟨'"' :: text.flatMap doubleQuotedCharacter ++ ['"'], by simp⟩
  | literal =>
      exact absurd (mem_of_style_eq_literal styleEq) single

theorem afterKey_suffix_fieldsText (indent : Nat) (fields : List (Text × Value)) (word : Text)
    (value : Value) : afterKey indent value <:+ fieldsText indent (fields ++ [(word, value)]) := by
  induction fields with
  | nil =>
      exact List.suffix_append_of_suffix (List.suffix_cons ':' _)
  | cons field fields inductionHypothesis =>
      have further : afterKey indent value <:+ furtherFields indent (fields ++ [(word, value)]) := by
        cases fields with
        | nil => exact List.suffix_append_of_suffix inductionHypothesis
        | cons next fields => exact List.suffix_append_of_suffix inductionHypothesis
      rw [List.cons_append, fieldsText_cons]
      apply List.suffix_append_of_suffix
      exact (List.suffix_append_of_suffix further).trans (List.suffix_cons ':' _)

theorem afterDash_suffix_itemsText (indent : Nat) (items : List Value) (item : Value) :
    afterDash (indent + 2) item <:+ itemsText indent (items ++ [item]) := by
  induction items with
  | nil =>
      exact List.suffix_cons '-' _
  | cons first items inductionHypothesis =>
      have further : afterDash (indent + 2) item <:+ furtherItems indent (items ++ [item]) := by
        cases items with
        | nil => exact List.suffix_append_of_suffix inductionHypothesis
        | cons next items => exact List.suffix_append_of_suffix inductionHypothesis
      rw [List.cons_append, itemsText_cons]
      exact (List.suffix_append_of_suffix further).trans (List.suffix_cons '-' _)

end RunManifest.Yaml
