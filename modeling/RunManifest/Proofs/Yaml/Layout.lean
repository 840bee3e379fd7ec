import RunManifest.Proofs.Yaml.Shape

/-!
# Layout

The text of a value of a known shape says what the value is and where its text ends.  Strings and
numbers end with their lines.  A list ends where no further item begins at its indentation, which
what stands behind it has to allow for (`EndsItems`), because a list stands no further right than
the key that it belongs to.
-/

namespace RunManifest.Yaml

variable {indent deeper : Nat} {rest : Text} {shape : Shape} {item : Value} {items : List Value}

theorem EndsBlock.mono (ends : EndsBlock indent rest) (further : indent ≤ deeper) :
    EndsBlock deeper rest := by
  cases ends with
  | nothing =>
      exact .nothing
  | line left noSpace unbroken =>
      exact .line (Nat.lt_of_lt_of_le left further) noSpace unbroken

/-- What can stand behind the entries of a collection at an indentation: nothing, or a line that
begins no further right and is not an item there. -/
structure EndsItems (indent : Nat) (rest : Text) : Prop where
  block : EndsBlock (indent + 1) rest
  noItem : ∀ behind, rest ≠ pad indent ++ '-' :: ' ' :: behind

theorem EndsBlock.endsItems (ends : EndsBlock indent rest) : EndsItems indent rest where
  block := ends.mono (Nat.le_succ indent)
  noItem := fun behind => ends.ne_pad '-' (' ' :: behind)

theorem EndsItems.mono (ends : EndsItems indent rest) (further : indent < deeper) :
    EndsItems deeper rest :=
  (ends.block.mono further).endsItems

theorem EndsItems.ne_furtherItems {others : Text} (ends : EndsItems indent rest) :
    rest ≠ furtherItems indent (item :: items) ++ others := by
  obtain ⟨behind, dashed⟩ := exists_afterDash_eq_cons (indent + 2) item
  rw [furtherItems_cons, dashed, List.append_assoc]
  exact ends.noItem _

/-- A further item ends the item before it. -/
theorem endsBlock_furtherItems (ends : EndsItems indent rest) :
    EndsBlock (indent + 2) (furtherItems indent items ++ rest) := by
  cases items with
  | nil =>
      exact ends.block.mono (Nat.le_succ (indent + 1))
  | cons item behind =>
      rw [furtherItems_cons, List.append_assoc]
      exact .line (by omega) (by decide) (by decide)

/-- A further field ends the field before it. -/
theorem endsItems_furtherFields {shapes : List (Key × Shape)} {fields : List (Text × Value)}
    (fit : FieldsFit shapes fields) (ends : EndsItems indent rest) :
    EndsItems indent (furtherFields indent fields ++ rest) := by
  cases fit with
  | nil =>
      exact ends
  | @cons key _ value _ behind first others =>
      obtain ⟨letter, letters, textEq, alpha⟩ := key.exists_eq_cons
      rw [furtherFields_cons, textEq, List.append_assoc]
      constructor
      · exact .line (Nat.lt_succ_self indent) (ne_of_isAlpha alpha (by decide))
          (isBreak_eq_false_of_isAlpha alpha)
      · intro behind same
        have sameBehind := List.append_cancel_left same
        exact ne_of_isAlpha alpha (by decide) (List.cons.inj sameBehind).1

/-- Does what is written for contents of a kind tell the content and its end, as long as nothing
but certain texts can stand behind it? -/
def Delimits {Content : Type} (Admits : Content → Prop) (Ends : Text → Prop)
    (write : Content → Text) : Prop :=
  ∀ ⦃first second : Content⦄ ⦃rest others : Text⦄,
    Admits first → Admits second → Ends rest → Ends others →
      write first ++ rest = write second ++ others → first = second ∧ rest = others

namespace Delimits

variable {Content Whole : Type} {Admits : Content → Prop} {AdmitsWhole : Whole → Prop}
variable {Ends Narrow : Text → Prop} {write : Whole → Text} {body : Content → Text}

theorem narrow (told : Delimits Admits Ends body) (narrower : ∀ ⦃rest⦄, Narrow rest → Ends rest) :
    Delimits Admits Narrow body :=
  fun _ _ _ _ admitted otherAdmitted ends othersEnd same =>
    told admitted otherAdmitted (narrower ends) (narrower othersEnd) same

/-- Contents that are all made in one way from parts are told if their parts are. -/
theorem of_form (told : Delimits Admits Ends body) (make : Content → Whole) (lead : Text)
    (made : ∀ ⦃whole⦄, AdmitsWhole whole → ∃ content, Admits content ∧ make content = whole)
    (written : ∀ ⦃content⦄, Admits content → write (make content) = lead ++ body content) :
    Delimits AdmitsWhole Ends write := by
  intro first second rest others admitted otherAdmitted ends othersEnd same
  obtain ⟨content, inner, rfl⟩ := made admitted
  obtain ⟨other, otherInner, rfl⟩ := made otherAdmitted
  rw [written inner, written otherInner, List.append_assoc, List.append_assoc] at same
  obtain ⟨rfl, sameRest⟩ :=
    told inner otherInner ends othersEnd (List.append_cancel_left same)
  exact ⟨rfl, sameRest⟩

end Delimits

/-- The text of a value of a shape tells the value and its end, wherever it stands. -/
structure Told (shape : Shape) : Prop where
  afterDash : ∀ indent, Delimits (Fits shape) (EndsBlock indent) (afterDash indent)
  afterKey : ∀ indent, Delimits (Fits shape) (EndsItems indent) (afterKey indent)

theorem delimits_scalarText (indent : Nat) :
    Delimits (fun _ => True) (EndsBlock indent) (scalarText indent) :=
  fun _ _ _ _ _ _ ends othersEnd same => scalarText_append_inj ends othersEnd same

theorem told_text : Told .text where
  afterDash := by
    intro indent
    apply (delimits_scalarText indent).of_form .text [' ']
    · rintro _ ⟨⟩
      exact ⟨_, trivial, rfl⟩
    · intro content _
      rw [afterDash, List.singleton_append]
  afterKey := by
    intro indent
    have told := (delimits_scalarText (indent + 2)).narrow fun rest ends =>
      EndsBlock.mono (EndsItems.block ends) (Nat.le_succ (indent + 1))
    apply told.of_form .text [' ']
    · rintro _ ⟨⟩
      exact ⟨_, trivial, rfl⟩
    · intro content _
      rw [afterKey, List.singleton_append]

/-- The line of a number. -/
def numberLine (number : Nat) : Text :=
  Text.decimal number ++ ['\n']

theorem delimits_numberLine (Ends : Text → Prop) :
    Delimits (fun _ => True) Ends numberLine := by
  intro first second rest others _ _ _ _ same
  have noFeed (number : Nat) : '\n' ∉ Text.decimal number := by
    intro member
    exact absurd (Text.isDigit_of_mem_decimal member) (by decide)
  rw [numberLine, numberLine, List.append_assoc, List.append_assoc] at same
  obtain ⟨sameDigits, sameRest⟩ := Text.append_mark_inj (noFeed first) (noFeed second) same
  exact ⟨Text.decimal_injective sameDigits, sameRest⟩

theorem told_number : Told .number where
  afterDash := by
    intro indent
    apply (delimits_numberLine _).of_form .number [' ']
    · rintro _ ⟨⟩
      exact ⟨_, trivial, rfl⟩
    · intro number _
      rw [afterDash]
      rfl
  afterKey := by
    intro indent
    apply (delimits_numberLine _).of_form .number [' ']
    · rintro _ ⟨⟩
      exact ⟨_, trivial, rfl⟩
    · intro number _
      rw [afterKey]
      rfl

theorem delimits_furtherItems {Admits : Value → Prop}
    (each : Delimits Admits (EndsBlock (indent + 2)) (afterDash (indent + 2))) :
    Delimits (fun items => ∀ item ∈ items, Admits item) (EndsItems indent)
      (furtherItems indent) := by
  intro first
  -- Item by item; what ends the list cannot begin another item at its indentation.
  induction first with
  | nil =>
      intro second rest others fit otherFit ends othersEnd same
      cases second with
      | nil =>
          exact ⟨rfl, same⟩
      | cons item behind =>
          exact absurd same ends.ne_furtherItems
  | cons item items inductionHypothesis =>
      intro second rest others fit otherFit ends othersEnd same
      cases second with
      | nil =>
          exact absurd same.symm othersEnd.ne_furtherItems
      | cons other behind =>
          have fits := List.forall_mem_cons.mp fit
          have otherFits := List.forall_mem_cons.mp otherFit
          simp only [furtherItems_cons, List.append_assoc, List.cons_append,
            List.append_cancel_left_eq, List.cons.injEq, true_and] at same
          obtain ⟨rfl, sameBehind⟩ :=
            each fits.1 otherFits.1 (endsBlock_furtherItems ends)
              (endsBlock_furtherItems othersEnd) same
          obtain ⟨rfl, sameRest⟩ :=
            inductionHypothesis fits.2 otherFits.2 ends othersEnd sameBehind
          exact ⟨rfl, sameRest⟩

/-- An empty list and one with items are told apart where their texts begin. -/
theorem delimits_list {Admits : Value → Prop} {write : List Value → Text} (lead : Text)
    (each : Delimits Admits (EndsBlock (indent + 2)) (afterDash (indent + 2)))
    (empty : write [] = " []\n".toList)
    (filled : ∀ item items, write (item :: items) = lead ++ itemsText indent (item :: items))
    (apart : ∀ rest others, " []\n".toList ++ rest ≠ lead ++ '-' :: others) :
    Delimits (fun items => ∀ item ∈ items, Admits item) (EndsItems indent) write := by
  intro first second rest others fit otherFit ends othersEnd same
  cases first with
  | nil =>
      cases second with
      | nil =>
          exact ⟨rfl, List.append_cancel_left same⟩
      | cons item items =>
          rw [empty, filled, itemsText_cons, List.append_assoc] at same
          exact absurd same (apart _ _)
  | cons item items =>
      cases second with
      | nil =>
          rw [empty, filled, itemsText_cons, List.append_assoc] at same
          exact absurd same.symm (apart _ _)
      | cons other behind =>
          rw [filled, filled, List.append_assoc, List.append_assoc] at same
          apply delimits_furtherItems each fit otherFit ends othersEnd
          rw [furtherItems, furtherItems, List.append_assoc, List.append_assoc,
            List.append_cancel_left same]

theorem told_list (each : Told shape) : Told (.list shape) where
  afterDash := by
    intro indent
    have told : Delimits (fun items => ∀ item ∈ items, Fits shape item) (EndsItems indent)
        fun items => afterDash indent (.list items) := by
      apply delimits_list [' '] (each.afterDash (indent + 2)) (by rw [afterDash])
      · intro item items
        rw [afterDash]
        rfl
      · intro rest others same
        exact absurd (List.cons.inj (List.cons.inj same).2).1 (by decide)
    apply (told.narrow fun rest ends => EndsBlock.endsItems ends).of_form .list []
    · exact fun _ fit => fit.exists_list
    · exact fun items _ => rfl
  afterKey := by
    intro indent
    have told : Delimits (fun items => ∀ item ∈ items, Fits shape item) (EndsItems indent)
        fun items => afterKey indent (.list items) := by
      apply delimits_list ('\n' :: pad indent) (each.afterDash (indent + 2)) (by rw [afterKey])
      · intro item items
        rw [afterKey]
      · intro rest others same
        exact absurd (List.cons.inj same).1 (by decide)
    apply told.of_form .list []
    · exact fun _ fit => fit.exists_list
    · exact fun items _ => rfl

theorem delimits_furtherFields_cons {key : Key} {shapes : List (Key × Shape)} (first : Told shape)
    (others : Delimits (FieldsFit shapes) (EndsItems indent) (furtherFields indent)) :
    Delimits (FieldsFit ((key, shape) :: shapes)) (EndsItems indent) (furtherFields indent) := by
  intro _ _ rest behind fit otherFit ends behindEnds same
  obtain ⟨value, fields, rfl, fit, fits⟩ := fit.exists_cons
  obtain ⟨other, otherFields, rfl, otherFit, otherFits⟩ := otherFit.exists_cons
  simp only [furtherFields_cons, List.append_assoc, List.cons_append,
    List.append_cancel_left_eq, List.cons.injEq, true_and] at same
  obtain ⟨rfl, sameFields⟩ :=
    first.afterKey indent fit otherFit (endsItems_furtherFields fits ends)
      (endsItems_furtherFields otherFits behindEnds) same
  obtain ⟨rfl, sameRest⟩ := others fits otherFits ends behindEnds sameFields
  exact ⟨rfl, sameRest⟩

theorem delimits_furtherFields_nil (Ends : Text → Prop) :
    Delimits (FieldsFit []) Ends (furtherFields indent) := by
  intro first second rest others fit otherFit ends othersEnd same
  rw [fit.eq_nil, otherFit.eq_nil] at same ⊢
  exact ⟨rfl, same⟩

theorem delimits_fieldsText {shapes : List (Key × Shape)}
    (told : Delimits (FieldsFit shapes) (EndsItems indent) (furtherFields indent)) :
    Delimits (FieldsFit shapes) (EndsItems indent) (fieldsText indent) := by
  intro first second rest others fit otherFit ends othersEnd same
  apply told fit otherFit ends othersEnd
  cases fit with
  | nil =>
      cases otherFit
      rw [fieldsText] at same
      exact same
  | cons =>
      cases otherFit
      rw [furtherFields, furtherFields, List.append_assoc, List.append_assoc, same]

/-- What is written for mappings of a shape, behind a key or a dash, is one text if the shape has
no fields, and begins in one way if it has some. -/
theorem delimits_mapping {shapes : List (Key × Shape)} {write : Value → Text} (lead : Text)
    (told : Delimits (FieldsFit shapes) (EndsItems indent) (fieldsText indent))
    (empty : write (.mapping []) = " \x7b\x7d\n".toList)
    (filled : ∀ field fields,
      write (.mapping (field :: fields)) = lead ++ fieldsText indent (field :: fields)) :
    Delimits (Fits (.mapping shapes)) (EndsItems indent) write := by
  cases shapes with
  | nil =>
      apply told.of_form .mapping " \x7b\x7d\n".toList
      · exact fun _ fit => fit.exists_mapping
      · intro fields fit
        rw [fit.eq_nil, empty, fieldsText, List.append_nil]
  | cons first shapes =>
      apply told.of_form .mapping lead
      · exact fun _ fit => fit.exists_mapping
      · intro fields fit
        obtain ⟨value, others, rfl, -⟩ := fit.exists_cons
        exact filled _ _

theorem told_mapping {shapes : List (Key × Shape)}
    (told : ∀ indent, Delimits (FieldsFit shapes) (EndsItems indent) (furtherFields indent)) :
    Told (.mapping shapes) where
  afterDash := by
    intro indent
    have wide : Delimits (Fits (.mapping shapes)) (EndsItems indent) (afterDash indent) := by
      apply delimits_mapping [' '] (delimits_fieldsText (told indent)) (by rw [afterDash])
      intro field fields
      rw [afterDash, List.singleton_append]
    exact wide.narrow fun rest ends => EndsBlock.endsItems ends
  afterKey := by
    intro indent
    have wide : Delimits (Fits (.mapping shapes)) (EndsItems (indent + 2)) (afterKey indent) := by
      apply delimits_mapping ('\n' :: pad (indent + 2)) (delimits_fieldsText (told (indent + 2)))
        (by rw [afterKey])
      intro field fields
      rw [afterKey]
    exact wide.narrow fun rest ends => EndsItems.mono ends (by omega)

/-! ## Documents -/

mutual

/-- Every value of every shape is told from its text. -/
theorem told_of_shape : ∀ shape, Told shape
  | .text => told_text
  | .number => told_number
  | .list item => told_list (told_of_shape item)
  | .mapping fields => told_mapping (delimits_furtherFields fields)

theorem delimits_furtherFields : ∀ (shapes : List (Key × Shape)) (indent : Nat),
    Delimits (FieldsFit shapes) (EndsItems indent) (furtherFields indent)
  | [], indent => delimits_furtherFields_nil (EndsItems indent)
  | (_, shape) :: shapes, indent =>
      delimits_furtherFields_cons (told_of_shape shape) (delimits_furtherFields shapes indent)

end

/-- Documents of one shape differ in their texts, whatever may stand behind these. -/
theorem delimits_documentText (shapes : List (Key × Shape)) :
    Delimits (FieldsFit shapes) (EndsItems 0) documentText :=
  delimits_fieldsText (delimits_furtherFields shapes 0)

theorem documentText_inj {shapes : List (Key × Shape)} {first second : List (Text × Value)}
    (fit : FieldsFit shapes first) (otherFit : FieldsFit shapes second)
    (same : documentText first = documentText second) : first = second := by
  have ends : EndsItems 0 [] := EndsBlock.nothing.endsItems
  apply (delimits_documentText shapes fit otherFit ends ends _).1
  rw [same]

end RunManifest.Yaml
