import RunManifest.Proofs.Yaml.Scalar

/-!
# Shapes of documents

A shape says which keys a document has and what kind of value stands under each, but neither what
the strings and numbers are nor how many items a list has.  All documents that are made by one part
of the library have one shape.
-/

namespace RunManifest.Yaml

variable {indent : Nat} {character : Char} {item : Value} {items : List Value}
variable {word : Text} {value : Value} {fields : List (Text × Value)}

/-- The keys that are written without quotes: words of letters. -/
structure Key where
  text : Text
  nonempty : text ≠ [] := by decide
  letters : text.all Char.isAlpha = true := by decide

/-- The shapes of values. -/
inductive Shape
  | text
  | number
  | list (item : Shape)
  | mapping (fields : List (Key × Shape))

mutual

/-- Does a value have a shape? -/
inductive Fits : Shape → Value → Prop
  | text {content : Text} :
      Fits .text (.text content)
  | number {value : Nat} :
      Fits .number (.number value)
  | list {shape : Shape} {items : List Value} (each : ∀ item ∈ items, Fits shape item) :
      Fits (.list shape) (.list items)
  | mapping {shapes : List (Key × Shape)} {fields : List (Text × Value)}
      (each : FieldsFit shapes fields) :
      Fits (.mapping shapes) (.mapping fields)

/-- Do fields have keys and values of given shapes, in this order? -/
inductive FieldsFit : List (Key × Shape) → List (Text × Value) → Prop
  | nil :
      FieldsFit [] []
  | cons {key : Key} {shape : Shape} {value : Value} {shapes : List (Key × Shape)}
      {fields : List (Text × Value)}
      (first : Fits shape value) (others : FieldsFit shapes fields) :
      FieldsFit ((key, shape) :: shapes) ((key.text, value) :: fields)

end

theorem Fits.exists_list {shape : Shape} (fit : Fits (.list shape) value) :
    ∃ items, (∀ item ∈ items, Fits shape item) ∧ Value.list items = value := by
  cases fit with
  | list each =>
      exact ⟨_, each, rfl⟩

theorem Fits.exists_mapping {shapes : List (Key × Shape)} (fit : Fits (.mapping shapes) value) :
    ∃ fields, FieldsFit shapes fields ∧ Value.mapping fields = value := by
  cases fit with
  | mapping each =>
      exact ⟨_, each, rfl⟩

theorem FieldsFit.eq_nil (fit : FieldsFit [] fields) : fields = [] := by
  cases fit
  rfl

theorem FieldsFit.exists_cons {key : Key} {shape : Shape} {shapes : List (Key × Shape)}
    (fit : FieldsFit ((key, shape) :: shapes) fields) :
    ∃ value others,
      fields = (key.text, value) :: others ∧ Fits shape value ∧ FieldsFit shapes others := by
  cases fit with
  | cons first others =>
      exact ⟨_, _, rfl, first, others⟩

namespace Key

theorem exists_eq_cons (key : Key) :
    ∃ first behind, key.text = first :: behind ∧ first.isAlpha = true := by
  have letters := key.letters
  cases textEq : key.text with
  | nil =>
      exact absurd textEq key.nonempty
  | cons first behind =>
      rw [textEq, List.all_cons, Bool.and_eq_true] at letters
      exact ⟨first, behind, rfl, letters.1⟩

end Key

theorem ne_of_isAlpha {letter : Char} (alpha : letter.isAlpha = true)
    (other : character.isAlpha = false) : letter ≠ character := by
  rintro rfl
  rw [alpha] at other
  cases other

theorem isBreak_eq_false_of_isAlpha (alpha : character.isAlpha = true) :
    isBreak character = false :=
  isBreak_eq_false_of Char.isAlpha alpha (by decide)

/-! ## Lists and mappings, one entry after the other -/

/-- The items behind an item, each on a line of its own. -/
def furtherItems (indent : Nat) : List Value → Text
  | [] => []
  | item :: rest => pad indent ++ itemsText indent (item :: rest)

/-- The fields behind a field, each on a line of its own. -/
def furtherFields (indent : Nat) : List (Text × Value) → Text
  | [] => []
  | field :: rest => pad indent ++ fieldsText indent (field :: rest)

theorem itemsText_cons :
    itemsText indent (item :: items) =
      '-' :: (afterDash (indent + 2) item ++ furtherItems indent items) := by
  cases items with
  | nil =>
      rw [itemsText, furtherItems, List.append_nil]
  | cons next behind =>
      rw [itemsText, furtherItems, List.append_assoc, List.cons_append]

theorem fieldsText_cons :
    fieldsText indent ((word, value) :: fields) =
      word ++ ':' :: (afterKey indent value ++ furtherFields indent fields) := by
  cases fields with
  | nil =>
      rw [fieldsText, furtherFields, List.append_nil]
  | cons next behind =>
      rw [fieldsText, furtherFields, List.append_assoc, List.append_assoc, List.cons_append]

theorem furtherItems_cons :
    furtherItems indent (item :: items) =
      pad indent ++ '-' :: (afterDash (indent + 2) item ++ furtherItems indent items) := by
  rw [← itemsText_cons]
  rfl

theorem furtherFields_cons :
    furtherFields indent ((word, value) :: fields) =
      pad indent ++ (word ++ ':' :: (afterKey indent value ++ furtherFields indent fields)) := by
  rw [← fieldsText_cons]
  rfl

/-- What follows a dash begins with a space. -/
theorem exists_afterDash_eq_cons (indent : Nat) (value : Value) :
    ∃ behind, afterDash indent value = ' ' :: behind := by
  match value with
  | .text content => exact ⟨_, by rw [afterDash]⟩
  | .number number => exact ⟨_, by rw [afterDash, List.cons_append]⟩
  | .list [] => exact ⟨_, by rw [afterDash]; rfl⟩
  | .list (first :: rest) => exact ⟨_, by rw [afterDash]⟩
  | .mapping [] => exact ⟨_, by rw [afterDash]; rfl⟩
  | .mapping (first :: rest) => exact ⟨_, by rw [afterDash]⟩

end RunManifest.Yaml
