import RunManifest.Proofs.CommandLine.Groups

/-!
# Clusters of short flags

The flags of a cluster are read one after the other, so a cluster that begins with a switch can be
written as this switch and a cluster of the others.  An `=` makes a difference: at the front of a
cluster it always gives its flag a value, but further in it is the value that decides.  Behind a
switch it is a switch like any other character, and a flag that takes a value drops it, so that
without anything behind it the flag takes the next word.
-/

namespace RunManifest.CommandLine

variable {word flags front rest : List Char} {letter : Char} {back : List Text}

/-- What a cluster is read as together with the words behind it. -/
def clusterLine (flags : Text) : List Text → List Item
  | [] => (clusterItems none flags).1
  | next :: others =>
      let (found, taken) := clusterItems (some next) flags
      found ++ if taken then items others else items (next :: others)

theorem items_cluster (form : wordForm word = .cluster flags) (back : List Text) :
    items (word :: back) = clusterLine flags back := by
  rw [items, form]
  cases back with
  | nil =>
      rfl
  | cons next others =>
      rfl

theorem clusterLine_nil (back : List Text) :
    clusterLine [] back = items back := by
  cases back with
  | nil =>
      simp [clusterLine, clusterItems, items]
  | cons next others =>
      rfl

theorem clusterLine_switch (isSwitch : letter ∉ shortValueFlags) (flags : Text)
    (back : List Text) :
    clusterLine (letter :: flags) back = .switch [letter] :: clusterLine flags back := by
  cases back with
  | nil =>
      simp only [clusterLine, clusterItems, if_neg isSwitch]
  | cons next others =>
      simp only [clusterLine, clusterItems, if_neg isSwitch, List.cons_append]

/-- What stands behind a flag that takes a value is the value. -/
theorem clusterLine_value (takes : letter ∈ shortValueFlags) (present : dropEquals rest ≠ [])
    (back : List Text) :
    clusterLine (letter :: rest) back =
      .value [letter] (dropEquals rest) :: items back := by
  have own (next? : Option Text) :
      clusterItems next? (letter :: rest) = ([.value [letter] (dropEquals rest)], false) := by
    unfold clusterItems
    rw [if_pos takes]
    cases value : dropEquals rest with
    | nil =>
        exact absurd value present
    | cons first others =>
        rfl
  cases back with
  | nil =>
      simp only [clusterLine, own, items]
  | cons next others =>
      simp only [clusterLine, own]
      rfl

/-- If nothing stands there, the flag takes the next word. -/
theorem clusterLine_next (takes : letter ∈ shortValueFlags) (missing : dropEquals rest = [])
    (next : Text) (others : List Text) :
    clusterLine (letter :: rest) (next :: others) = .value [letter] next :: items others := by
  simp only [clusterLine, clusterItems, if_pos takes, missing, if_true]
  rfl

theorem clusterLine_last (takes : letter ∈ shortValueFlags) (missing : dropEquals rest = []) :
    clusterLine (letter :: rest) [] = [.switch [letter]] := by
  simp only [clusterLine, clusterItems, if_pos takes, missing]

/-- The first value that a cluster gives is one for a flag that takes a value. -/
theorem values_clusterLine (flags : Text) (back : List Text) :
    (Flags.ofItems (clusterLine flags back)).values = (Flags.ofItems (items back)).values ∨
      ∃ letter ∈ shortValueFlags, ∃ value others,
        (Flags.ofItems (clusterLine flags back)).values = ([letter], value) :: others := by
  induction flags with
  | nil =>
      rw [clusterLine_nil]
      exact .inl rfl
  | cons letter rest inductionHypothesis =>
      by_cases takes : letter ∈ shortValueFlags
      · by_cases missing : dropEquals rest = []
        · cases back with
          | nil =>
              rw [clusterLine_last takes missing]
              exact .inl rfl
          | cons next others =>
              rw [clusterLine_next takes missing]
              exact .inr ⟨letter, takes, next, _, rfl⟩
        · rw [clusterLine_value takes missing]
          exact .inr ⟨letter, takes, _, _, rfl⟩
      · rw [clusterLine_switch takes]
        exact inductionHypothesis

/-! ## Splitting a cluster -/

/-- At the front of a cluster, `=` gives its flag a value. -/
theorem items_shortAssignment (notDash : letter ≠ '-') (value : Text) (back : List Text) :
    items (('-' :: letter :: '=' :: value) :: back) = .value [letter] value :: items back := by
  have form : wordForm ('-' :: letter :: '=' :: value) = .assignment letter value := by
    simp [wordForm]
  rw [items, form]

theorem wordForm_cluster (notDash : letter ≠ '-') (noMark : rest.head? ≠ some '=') :
    wordForm ('-' :: letter :: rest) = .cluster (letter :: rest) := by
  cases rest with
  | nil =>
      exact wordForm_short notDash
  | cons next others =>
      have notMark : next ≠ '=' := by
        simpa using noMark
      simp [wordForm, notMark]

/-- A cluster that is a flag with an assigned value is read like one further in a cluster only if
the flag takes values and the value is not empty. -/
theorem clusterLine_assignment_iff (letter : Char) (value : Text) (back : List Text) :
    Flags.ofItems (clusterLine (letter :: '=' :: value) back) =
        Flags.ofItems (.value [letter] value :: items back) ↔
      letter ∈ shortValueFlags ∧ value ≠ [] := by
  constructor
  · intro same
    have sameValues := congrArg Flags.values same
    have samePositionals := congrArg Flags.positionals same
    by_cases takes : letter ∈ shortValueFlags
    · refine ⟨takes, ?_⟩
      rintro rfl
      cases back with
      | nil =>
          rw [clusterLine_last takes rfl] at sameValues
          cases sameValues
      | cons next others =>
          -- The next word would have to be empty, but then it is a positional word by itself.
          rw [clusterLine_next takes rfl] at sameValues samePositionals
          injection sameValues with sameFirst
          injection sameFirst with _ nextEmpty
          subst nextEmpty
          have lengths := congrArg List.length samePositionals
          simp [Flags.ofItems, items, wordForm] at lengths
    · rw [clusterLine_switch takes] at sameValues
      rcases values_clusterLine ('=' :: value) back with
        valuesEq | ⟨other, otherTakes, given, others, valuesEq⟩
      · have lengths := congrArg List.length (valuesEq.symm.trans sameValues)
        simp [Flags.ofItems] at lengths
      · have firstSame := valuesEq.symm.trans sameValues
        injection firstSame with sameFirst
        injection sameFirst with sameFlag
        injection sameFlag with sameLetter
        exact absurd (sameLetter ▸ otherTakes) takes
  · rintro ⟨takes, present⟩
    have behind : dropEquals ('=' :: value) = value := rfl
    rw [clusterLine_value takes (behind.symm ▸ present), behind]

namespace Flags

theorem append_right_inj {before one other : Flags} :
    before.append one = before.append other ↔ one = other := by
  obtain ⟨values, switches, positionals⟩ := one
  obtain ⟨otherValues, otherSwitches, otherPositionals⟩ := other
  simp [append]

theorem ofItems_cons_inj {item : Item} {one other : List Item} :
    ofItems (item :: one) = ofItems (item :: other) ↔ ofItems one = ofItems other := by
  have split (items : List Item) :
      ofItems (item :: items) = (ofItems [item]).append (ofItems items) :=
    ofItems_append [item] items
  rw [split one, split other, append_right_inj]

/-- A cluster that begins with a switch is read as this switch and a cluster of the others, unless
`=` gives a value to the flag behind the switch and this flag is a switch or the value is empty. -/
theorem ofWords_splitCluster_iff {before : List Text} (closed : isClosed before = true)
    (back : List Text) {letter first : Char} {rest : Text}
    (notDash : letter ≠ '-') (isSwitch : letter ∉ shortValueFlags)
    (firstNotDash : first ≠ '-') (firstNotMark : first ≠ '=') :
    ofWords (before ++ ['-' :: letter :: first :: rest] ++ back) =
        ofWords (before ++ [['-', letter], '-' :: first :: rest] ++ back) ↔
      ∀ value, rest = '=' :: value → first ∈ shortValueFlags ∧ value ≠ [] := by
  have whole :
      items (('-' :: letter :: first :: rest) :: back) =
        .switch [letter] :: clusterLine (first :: rest) back := by
    have noMark : (first :: rest).head? ≠ some '=' := by
      simpa using firstNotMark
    rw [items_cluster (wordForm_cluster notDash noMark), clusterLine_switch isSwitch]
  have parts :
      items ([['-', letter], '-' :: first :: rest] ++ back) =
        .switch [letter] :: items (('-' :: first :: rest) :: back) :=
    items_shortSwitch notDash isSwitch
  rw [List.append_assoc, List.append_assoc, ofWords, ofWords, items_append_of_isClosed closed,
    items_append_of_isClosed closed, ofItems_append, ofItems_append, append_right_inj,
    List.singleton_append, whole, parts, ofItems_cons_inj]
  by_cases noMark : rest.head? = some '='
  · obtain ⟨value, rfl⟩ := List.head?_eq_some_iff.mp noMark
    rw [items_shortAssignment firstNotDash, clusterLine_assignment_iff]
    constructor
    · rintro possible value' same
      injection same with _ sameValue
      exact sameValue ▸ possible
    · intro always
      exact always value rfl
  · rw [items_cluster (wordForm_cluster firstNotDash noMark)]
    constructor
    · rintro - value rfl
      exact absurd rfl noMark
    · intro _
      rfl

theorem ofWords_splitCluster_publishing :
    isClosed ["-e".toList, "--".toList] = true ∧
      ofWords (["-e".toList, "--".toList] ++ ['-' :: 'd' :: 'p' :: "=80:80".toList] ++
          ["web".toList]) =
        ofWords (["-e".toList, "--".toList] ++ [['-', 'd'], '-' :: 'p' :: "=80:80".toList] ++
          ["web".toList]) := by
  have closed : isClosed ["-e".toList, "--".toList] = true := by
    decide
  refine ⟨closed, (ofWords_splitCluster_iff closed _ (by decide) (by decide) (by decide)
    (by decide)).mpr ?_⟩
  intro value same
  injection same with _ sameValue
  subst sameValue
  exact ⟨by decide, by decide⟩

/-- A value that turns a switch off is lost in a cluster, and the switch is on. -/
theorem ofWords_splitCluster_detaching :
    isClosed [] = true ∧ 't' ≠ '-' ∧ 't' ∉ shortValueFlags ∧
      ofWords ([] ++ ["-td=false".toList] ++ ["web".toList]) ≠
        ofWords ([] ++ ["-t".toList, "-d=false".toList] ++ ["web".toList]) ∧
      (ofWords ["-td=false".toList, "web".toList]).isEnabled [['d']] = true ∧
      (ofWords ["-t".toList, "-d=false".toList, "web".toList]).isEnabled [['d']] = false := by
  decide

end Flags

end RunManifest.CommandLine
