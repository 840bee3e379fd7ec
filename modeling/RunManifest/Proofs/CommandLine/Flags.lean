import RunManifest.CommandLine.Flags

/-!
# Reading flags

What single words at the front of a line are read as, and how the flags of a line are collected
from its items.
-/

namespace RunManifest.CommandLine

variable {rest : List Text}

theorem wordForm_long {body : Text} (present : body ≠ []) :
    wordForm ('-' :: '-' :: body) = .long body := by
  cases body with
  | nil =>
      exact absurd rfl present
  | cons first others =>
      rfl

theorem wordForm_short {flag : Char} (notDash : flag ≠ '-') :
    wordForm ['-', flag] = .cluster [flag] := by
  simp [wordForm, notDash]

theorem items_terminator (rest : List Text) :
    items (['-', '-'] :: rest) = rest.map .positional := by
  rw [items]
  rfl

/-- The first `=` ends the name of a long flag and begins its value. -/
theorem items_longAssignment {flag : Text} (value : Text) (whole : '=' ∉ flag) :
    items (('-' :: '-' :: (flag ++ '=' :: value)) :: rest) = .value flag value :: items rest := by
  have cut : Text.splitOnce '=' (flag ++ '=' :: value) = some (flag, value) :=
    Text.splitOnce_eq_some_iff.mpr ⟨rfl, whole⟩
  rw [items, wordForm_long (by simp)]
  simp only [cut]

theorem items_shortSwitch
    {flag : Char} (notDash : flag ≠ '-') (alone : flag ∉ shortValueFlags) :
    items (['-', flag] :: rest) = .switch [flag] :: items rest := by
  rw [items, wordForm_short notDash]
  cases rest with
  | nil =>
      simp [clusterItems, alone, items]
  | cons next others =>
      simp [clusterItems, alone]

/-- A short flag takes the next word as its value, whatever that word looks like. -/
theorem items_shortValue {flag : Char} (value : Text) (takes : flag ∈ shortValueFlags) :
    items (['-', flag] :: value :: rest) = .value [flag] value :: items rest := by
  have notDash : flag ≠ '-' := by
    rintro rfl
    exact absurd takes (by decide)
  rw [items, wordForm_short notDash]
  simp [clusterItems, takes, dropEquals]

/-- Values that are each written after the same short flag are taken one after the other. -/
theorem items_shortValues
    {value : Type} {flag : Char} (takes : flag ∈ shortValueFlags)
    (write : value → Text) (values : List value) :
    items ((values.flatMap fun given => [['-', flag], write given]) ++ rest) =
      (values.map fun given => .value [flag] (write given)) ++ items rest := by
  induction values with
  | nil =>
      rfl
  | cons first others inductionHypothesis =>
      rw [List.flatMap_cons, List.append_assoc, List.cons_append, List.cons_append,
        List.nil_append, items_shortValue _ takes, inductionHypothesis, List.map_cons,
        List.cons_append]

/-! ## Collecting -/

/-- The value that an item gives to a flag with several names. -/
def Item.valueFor? (names : List Text) : Item → Option Text
  | .value flag given => if names.contains flag then some given else none
  | .switch _ => none
  | .positional _ => none

def Item.positional? : Item → Option Text
  | .value _ _ => none
  | .switch _ => none
  | .positional word => some word

/-- Does an item turn a flag with several names on without a value? -/
def Item.switches (names : List Text) : Item → Bool
  | .value _ _ => false
  | .switch flag => names.contains flag
  | .positional _ => false

/-- Values that are all given to one flag are all values of that flag and of no other. -/
theorem filterMap_valueFor?
    {value : Type} (names : List Text) (flag : Text) (write : value → Text)
    (values : List value) :
    ((values.map fun given => Item.value flag (write given)).filterMap
        (Item.valueFor? names)) =
      if flag ∈ names then values.map write else [] := by
  by_cases named : flag ∈ names
  · simp [List.filterMap_map, Function.comp_def, Item.valueFor?, named]
  · simp [Item.valueFor?, named]

theorem filterMap_positional?
    {value : Type} (flag : Text) (write : value → Text) (values : List value) :
    (values.map fun given => Item.value flag (write given)).filterMap Item.positional? = [] := by
  simp [Item.positional?]

namespace Flags

theorem valuesOf_ofItems (items : List Item) (names : List Text) :
    (ofItems items).valuesOf names = items.filterMap (Item.valueFor? names) := by
  induction items with
  | nil =>
      rfl
  | cons item rest inductionHypothesis =>
      simp only [valuesOf, ofItems] at inductionHypothesis ⊢
      cases item with
      | value flag given =>
          by_cases named : flag ∈ names
          · simp [named, Item.valueFor?, inductionHypothesis]
          · simp [named, Item.valueFor?, inductionHypothesis]
      | switch flag =>
          rw [List.filterMap_cons_none rfl, inductionHypothesis, List.filterMap_cons_none rfl]
      | positional word =>
          rw [List.filterMap_cons_none rfl, inductionHypothesis, List.filterMap_cons_none rfl]

theorem hasSwitch_ofItems (items : List Item) (names : List Text) :
    (ofItems items).hasSwitch names = items.any (Item.switches names) := by
  induction items with
  | nil =>
      rfl
  | cons item rest inductionHypothesis =>
      simp only [hasSwitch, ofItems] at inductionHypothesis ⊢
      cases item with
      | value flag given =>
          rw [List.filterMap_cons_none rfl, inductionHypothesis, List.any_cons, Item.switches,
            Bool.false_or]
      | switch flag =>
          rw [List.any_cons, ← inductionHypothesis, Item.switches, List.contains_eq_mem]
          rfl
      | positional word =>
          rw [List.filterMap_cons_none rfl, inductionHypothesis, List.any_cons, Item.switches,
            Bool.false_or]

theorem positionals_ofItems (items : List Item) :
    (ofItems items).positionals = items.filterMap Item.positional? := by
  simp only [ofItems]
  congr 1
  funext item
  cases item <;> rfl

end Flags

end RunManifest.CommandLine
