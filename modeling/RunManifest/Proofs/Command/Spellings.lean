import Mathlib.Data.List.Forall2
import RunManifest.Proofs.Command.Interleaving
import RunManifest.Proofs.CommandLine.Clusters

/-!
# Spellings of an option

A flag that takes a value is given it in the next word, behind `=`, or, if its name is a letter and
the value leaves no doubt, right behind the letter.  All spellings are read as the same item, and
the names of the flags for ports and for the environment are told apart by nothing that a command is
built from.
-/

namespace RunManifest

namespace CommandLine

variable {flag value : Text} {words otherWords before : List Text}

/-- Words that give a value to a flag. -/
inductive Gives (value : Text) : Text → List Text → Prop
  | longNext {name : Text} (takes : name ∈ longValueFlags) :
      Gives value name ['-' :: '-' :: name, value]
  | longAssigned {name : Text} (takes : name ∈ longValueFlags) :
      Gives value name ['-' :: '-' :: (name ++ '=' :: value)]
  | shortNext {letter : Char} (takes : letter ∈ shortValueFlags) :
      Gives value [letter] [['-', letter], value]
  | shortAssigned {letter : Char} (takes : letter ∈ shortValueFlags) :
      Gives value [letter] ['-' :: letter :: '=' :: value]
  | shortAttached {letter : Char} (takes : letter ∈ shortValueFlags) (present : value ≠ [])
      (noMark : value.head? ≠ some '=') :
      Gives value [letter] ['-' :: letter :: value]

theorem longValueFlags_whole : ∀ name ∈ longValueFlags, name ≠ [] ∧ '=' ∉ name := by
  decide

theorem items_longValue (takes : flag ∈ longValueFlags) (value : Text) (back : List Text) :
    items (('-' :: '-' :: flag) :: value :: back) = .value flag value :: items back := by
  obtain ⟨present, noMark⟩ := longValueFlags_whole flag takes
  have whole : Text.splitOnce '=' flag = none := Text.splitOnce_eq_none_iff.mpr noMark
  rw [items, wordForm_long present]
  simp only [whole, if_pos takes]

theorem dropEquals_of_head? (noMark : value.head? ≠ some '=') :
    dropEquals value = value := by
  cases value with
  | nil =>
      rfl
  | cons first rest =>
      have notMark : first ≠ '=' := by
        simpa using noMark
      simp [dropEquals, notMark]

/-- However a flag is given a value, it is read as this value of this flag. -/
theorem items_of_gives (gives : Gives value flag words) (back : List Text) :
    items (words ++ back) = .value flag value :: items back := by
  have notDash : ∀ letter ∈ shortValueFlags, letter ≠ '-' := by
    rintro letter takes rfl
    exact absurd takes (by decide)
  cases gives with
  | longNext takes =>
      exact items_longValue takes value back
  | longAssigned takes =>
      exact items_longAssignment value (longValueFlags_whole flag takes).2
  | shortNext takes =>
      exact items_shortValue value takes
  | @shortAssigned letter takes =>
      exact items_shortAssignment (notDash letter takes) value back
  | @shortAttached letter takes present noMark =>
      have whole := dropEquals_of_head? noMark
      have form := wordForm_cluster (notDash letter takes) noMark
      rw [List.singleton_append, items_cluster form,
        clusterLine_value takes (whole.symm ▸ present), whole]

end CommandLine

namespace ContainerCommand

open CommandLine

variable {flag otherFlag value : Text} {words otherWords one other : List Text}
variable {items otherItems : List Item}

/-! ## Commands -/

/-- The flags with several names that can be given more than once, by these names. -/
def repeatedFlags : List (List Text) :=
  [portFlags, envFlags]

/-- The flags that a command is built from, each by its names. -/
def usedFlags : List (List Text) :=
  [portFlags, envFlags, nameFlags, detachFlags]

theorem contains_usedFlags :
    ∀ names ∈ repeatedFlags, ∀ flag ∈ names, ∀ otherFlag ∈ names, ∀ used ∈ usedFlags,
      used.contains flag = used.contains otherFlag := by
  decide

/-- Two items are the same up to the name under which a flag is given its value. -/
inductive Matches : Item → Item → Prop
  | refl (item : Item) : Matches item item
  | renamed {names : List Text} (repeated : names ∈ repeatedFlags) {flag otherFlag : Text}
      (named : flag ∈ names) (otherNamed : otherFlag ∈ names) (value : Text) :
      Matches (.value flag value) (.value otherFlag value)

theorem filterMap_of_matches {kind : Type} {choose : Item → Option kind}
    (respects : ∀ item otherItem, Matches item otherItem → choose item = choose otherItem)
    (same : List.Forall₂ Matches items otherItems) :
    items.filterMap choose = otherItems.filterMap choose := by
  induction same with
  | nil =>
      rfl
  | cons first _ inductionHypothesis =>
      rw [List.filterMap_cons, List.filterMap_cons, respects _ _ first, inductionHypothesis]

/-- Nothing that a command is built from depends on the name. -/
theorem build_of_matches (same : List.Forall₂ Matches items otherItems) (default : Protocol) :
    build default (Flags.ofItems items) = build default (Flags.ofItems otherItems) := by
  have sameValues : ∀ used ∈ usedFlags,
      (Flags.ofItems items).valuesOf used = (Flags.ofItems otherItems).valuesOf used := by
    intro used isUsed
    rw [Flags.valuesOf_ofItems, Flags.valuesOf_ofItems]
    apply filterMap_of_matches _ same
    rintro _ _ (_ | ⟨repeated, named, otherNamed, value⟩)
    · rfl
    · rw [Item.valueFor?, Item.valueFor?,
        contains_usedFlags _ repeated _ named _ otherNamed used isUsed]
  have sameSettings :
      items.filterMap (Item.setting? detachFlags) =
        otherItems.filterMap (Item.setting? detachFlags) := by
    apply filterMap_of_matches _ same
    rintro _ _ (_ | ⟨repeated, named, otherNamed, value⟩)
    · rfl
    · rw [Item.setting?, Item.setting?,
        contains_usedFlags _ repeated _ named _ otherNamed detachFlags (by decide)]
  have samePositionals :
      (Flags.ofItems items).positionals = (Flags.ofItems otherItems).positionals := by
    rw [Flags.positionals_ofItems, Flags.positionals_ofItems]
    apply filterMap_of_matches _ same
    rintro _ _ (_ | _)
    · rfl
    · rfl
  exact build_congr (sameValues portFlags (by decide)) (sameValues envFlags (by decide))
    (sameValues nameFlags (by decide)) (Flags.isEnabled_of_settings sameSettings) samePositionals

/-- Two lines that differ at most in how, and under which of its names, a flag for a port or for the
environment is given a value.  Whatever stands behind the last of these flags is the same. -/
inductive Respelled : List Text → List Text → Prop
  | refl (words : List Text) : Respelled words words
  | group {group one other : List Text} (isGroup : IsGroup group) (same : Respelled one other) :
      Respelled (group ++ one) (group ++ other)
  | option {names : List Text} (repeated : names ∈ repeatedFlags) {flag otherFlag value : Text}
      {words otherWords one other : List Text} (named : flag ∈ names)
      (otherNamed : otherFlag ∈ names) (gives : Gives value flag words)
      (otherGives : Gives value otherFlag otherWords) (same : Respelled one other) :
      Respelled (words ++ one) (otherWords ++ other)

theorem forall₂_matches_items (same : Respelled one other) :
    List.Forall₂ Matches (CommandLine.items one) (CommandLine.items other) := by
  induction same with
  | refl words =>
      exact List.forall₂_same.mpr fun item _ => .refl item
  | group isGroup _ inductionHypothesis =>
      rw [(items_group isGroup).2, (items_group isGroup).2]
      exact List.rel_append (List.forall₂_same.mpr fun item _ => .refl item) inductionHypothesis
  | option repeated named otherNamed gives otherGives _ inductionHypothesis =>
      rw [items_of_gives gives, items_of_gives otherGives]
      exact .cons (.renamed repeated named otherNamed _) inductionHypothesis

/-- After a closed line all spellings of a value for a flag are read alike, and lines that spell
their ports and their environment differently are built to the same command or refused with the same
error. -/
theorem spellings_agree :
    (∀ (before back words otherWords : List Text) (flag value : Text), isClosed before = true →
      Gives value flag words → Gives value flag otherWords →
      Flags.ofWords (before ++ words ++ back) = Flags.ofWords (before ++ otherWords ++ back)) ∧
    ∀ (one other : List Text) (default : Protocol), Respelled one other →
      build default (Flags.ofWords one) = build default (Flags.ofWords other) := by
  constructor
  · intro before back words otherWords flag value closed gives otherGives
    rw [List.append_assoc, List.append_assoc, Flags.ofWords, Flags.ofWords,
      items_append_of_isClosed closed, items_append_of_isClosed closed, items_of_gives gives,
      items_of_gives otherGives]
  · intro one other default same
    exact build_of_matches (forall₂_matches_items same) default

def plainLine : List Text :=
  [['-', 'p'], "80:80".toList] ++
    (["-it".toList] ++ (['-' :: '-' :: ("env".toList ++ '=' :: "A=-p".toList)] ++ ["web".toList]))

def otherLine : List Text :=
  ['-' :: '-' :: ("publish".toList ++ '=' :: "80:80".toList)] ++
    (["-it".toList] ++ (['-' :: 'e' :: "A=-p".toList] ++ ["web".toList]))

theorem spellings_agree_otherLine :
    Flags.ofWords (["--rm".toList] ++ [['-', 'e'], "--".toList] ++ ["web".toList]) =
        Flags.ofWords (["--rm".toList] ++ ['-' :: 'e' :: '=' :: "--".toList] ++
          ["web".toList]) ∧
      Respelled plainLine otherLine ∧
      build .udp (Flags.ofWords plainLine) = build .udp (Flags.ofWords otherLine) := by
  have respelledEnd :
      Respelled (['-' :: '-' :: ("env".toList ++ '=' :: "A=-p".toList)] ++ ["web".toList])
        (['-' :: 'e' :: "A=-p".toList] ++ ["web".toList]) :=
    .option (by decide : envFlags ∈ repeatedFlags) (by decide) (by decide)
      (.longAssigned (by decide)) (.shortAttached (by decide) (by decide) (by decide)) (.refl _)
  have respelled : Respelled plainLine otherLine :=
    .option (by decide : portFlags ∈ repeatedFlags) (by decide) (by decide)
      (.shortNext (by decide)) (.longAssigned (by decide))
      (.group (.alone (by decide) (by decide)) respelledEnd)
  exact ⟨spellings_agree.1 _ _ _ _ _ _ (by decide) (.shortNext (by decide))
    (.shortAssigned (by decide)), respelled, spellings_agree.2 _ _ .udp respelled⟩

end ContainerCommand

end RunManifest
