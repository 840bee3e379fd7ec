import RunManifest.Proofs.CommandLine.Flags

/-!
# Groups of words

A flag that takes the next word is read together with it, and every other word is read on its own.
What a group of words is read as does not depend on the groups around it, so the flags of a line
that ends with a group can be told apart from those of what is written behind it.
-/

namespace RunManifest.CommandLine

/-- Does a cluster of short flags take the next word?  Its first flag that takes a value does, if
there is nothing behind it but one `=`. -/
def clusterTakesNext : Text → Bool
  | [] => false
  | flag :: rest =>
      if flag ∈ shortValueFlags then dropEquals rest = [] else clusterTakesNext rest

/-- Does a word take the next one as its value? -/
def takesNext (word : Text) : Bool :=
  match wordForm word with
  | .long body => !body.contains '=' && longValueFlags.contains body
  | .cluster flags => clusterTakesNext flags
  | _ => false

/-- Words that are read together: one that stands alone, or one that takes a value, with it. -/
inductive IsGroup : List Text → Prop
  | alone {word : Text} (notTerminator : word ≠ ['-', '-']) (standsAlone : takesNext word = false) :
      IsGroup [word]
  | valued {word : Text} (takes : takesNext word = true) (value : Text) :
      IsGroup [word, value]

/-- Is a line read to its end without coming upon `--` where a flag may stand, and without a word at
its end that has no word to take? -/
def isClosed : List Text → Bool
  | [] => true
  | word :: rest =>
      if word = ['-', '-'] then
        false
      else if takesNext word then
        match rest with
        | [] => false
        | _ :: others => isClosed others
      else
        isClosed rest

variable {word flags : Text} {group front : List Text} {groups : List (List Text)}

theorem wordForm_eq_terminator_iff :
    wordForm word = .terminator ↔ word = ['-', '-'] := by
  constructor
  · intro form
    unfold wordForm at form
    split at form <;> first | rfl | cases form
  · rintro rfl
    rfl

theorem clusterItems_of_takesNext (takes : clusterTakesNext flags = true) (next : Text) :
    (clusterItems (some next) flags).2 = true := by
  induction flags with
  | nil =>
      cases takes
  | cons flag others inductionHypothesis =>
      unfold clusterTakesNext at takes
      unfold clusterItems
      by_cases valueFlag : flag ∈ shortValueFlags
      · rw [if_pos valueFlag, decide_eq_true_eq] at takes
        rw [if_pos valueFlag, takes]
      · rw [if_neg valueFlag] at takes
        rw [if_neg valueFlag]
        exact inductionHypothesis takes

/-- A cluster that does not take the next word is read without looking at it. -/
theorem clusterItems_of_not_takesNext
    (standsAlone : clusterTakesNext flags = false) (next? : Option Text) :
    clusterItems next? flags = ((clusterItems none flags).1, false) := by
  induction flags with
  | nil =>
      rfl
  | cons flag others inductionHypothesis =>
      unfold clusterTakesNext at standsAlone
      unfold clusterItems
      by_cases valueFlag : flag ∈ shortValueFlags
      · rw [if_pos valueFlag, decide_eq_false_iff_not] at standsAlone
        rw [if_pos valueFlag, if_pos valueFlag]
        cases own : dropEquals others with
        | nil =>
            exact absurd own standsAlone
        | cons first behind =>
            rfl
      · rw [if_neg valueFlag] at standsAlone
        rw [if_neg valueFlag, if_neg valueFlag, inductionHypothesis standsAlone]

theorem clusterItems_ne_nil (next? : Option Text) (flag : Char) (others : Text) :
    (clusterItems next? (flag :: others)).1 ≠ [] := by
  unfold clusterItems
  split
  · split
    · simp
    · simp
    · simp
  · simp

theorem exists_of_wordForm_eq_cluster (form : wordForm word = .cluster flags) :
    ∃ flag others, flags = flag :: others := by
  unfold wordForm at form
  split at form <;> first | cases form; exact ⟨_, _, rfl⟩ | cases form

/-- A word that stands alone is read as something, in the same way whatever follows it. -/
theorem exists_items_alone
    (notTerminator : word ≠ ['-', '-']) (standsAlone : takesNext word = false) :
    ∃ found, found ≠ [] ∧ ∀ rest, items (word :: rest) = found ++ items rest := by
  unfold takesNext at standsAlone
  cases form : wordForm word with
  | terminator =>
      exact absurd (wordForm_eq_terminator_iff.mp form) notTerminator
  | long body =>
      rw [form] at standsAlone
      cases cut : Text.splitOnce '=' body with
      | some parts =>
          refine ⟨[.value parts.1 parts.2], List.cons_ne_nil _ _, ?_⟩
          intro rest
          rw [items, form]
          simp only [cut]
          rfl
      | none =>
          have noMark : '=' ∉ body := Text.splitOnce_eq_none_iff.mp cut
          have isSwitch : body ∉ longValueFlags := by
            simpa [noMark] using standsAlone
          refine ⟨[.switch body], List.cons_ne_nil _ _, ?_⟩
          intro rest
          rw [items, form]
          simp only [cut, if_neg isSwitch]
          rfl
  | assignment flag value =>
      refine ⟨[.value [flag] value], List.cons_ne_nil _ _, ?_⟩
      intro rest
      rw [items, form]
      rfl
  | cluster flags =>
      rw [form] at standsAlone
      obtain ⟨flag, others, rfl⟩ := exists_of_wordForm_eq_cluster form
      refine ⟨(clusterItems none (flag :: others)).1, clusterItems_ne_nil none flag others, ?_⟩
      intro rest
      rw [items, form]
      cases rest with
      | nil =>
          rw [items, List.append_nil]
      | cons next behind =>
          simp only [clusterItems_of_not_takesNext standsAlone (some next)]
          rfl
  | plain =>
      refine ⟨[.positional word], List.cons_ne_nil _ _, ?_⟩
      intro rest
      rw [items, form]
      rfl

/-- A word that takes a value is read with it as something, in the same way whatever follows. -/
theorem exists_items_valued (takes : takesNext word = true) (value : Text) :
    ∃ found, found ≠ [] ∧ ∀ rest, items (word :: value :: rest) = found ++ items rest := by
  unfold takesNext at takes
  cases form : wordForm word with
  | terminator =>
      rw [form] at takes
      cases takes
  | long body =>
      have parts : '=' ∉ body ∧ body ∈ longValueFlags := by
        simpa [form] using takes
      obtain ⟨noMark, valueFlag⟩ := parts
      have cut : Text.splitOnce '=' body = none := Text.splitOnce_eq_none_iff.mpr noMark
      refine ⟨[.value body value], List.cons_ne_nil _ _, ?_⟩
      intro rest
      rw [items, form]
      simp only [cut, if_pos valueFlag]
      rfl
  | assignment flag given =>
      rw [form] at takes
      cases takes
  | cluster flags =>
      rw [form] at takes
      obtain ⟨flag, others, rfl⟩ := exists_of_wordForm_eq_cluster form
      refine ⟨(clusterItems (some value) (flag :: others)).1,
        clusterItems_ne_nil (some value) flag others, ?_⟩
      intro rest
      rw [items, form]
      simp only [clusterItems_of_takesNext takes value, if_true]
  | plain =>
      rw [form] at takes
      cases takes

theorem items_group (isGroup : IsGroup group) :
    items group ≠ [] ∧ ∀ rest, items (group ++ rest) = items group ++ items rest := by
  have read : ∃ found, found ≠ [] ∧ ∀ rest, items (group ++ rest) = found ++ items rest := by
    cases isGroup with
    | alone notTerminator standsAlone =>
        exact exists_items_alone notTerminator standsAlone
    | valued takes value =>
        exact exists_items_valued takes value
  obtain ⟨found, present, readBefore⟩ := read
  have foundEq : items group = found := by
    have readLast := readBefore []
    rwa [List.append_nil, items, List.append_nil] at readLast
  rw [foundEq]
  exact ⟨present, readBefore⟩

theorem items_groups_append (areGroups : ∀ group ∈ groups, IsGroup group) (rest : List Text) :
    items (groups.flatten ++ rest) = groups.flatMap items ++ items rest := by
  induction groups with
  | nil =>
      rfl
  | cons first others inductionHypothesis =>
      have othersRead := inductionHypothesis fun group member =>
        areGroups group (List.mem_cons_of_mem first member)
      rw [List.flatten_cons, List.append_assoc,
        (items_group (areGroups first List.mem_cons_self)).2, othersRead, List.flatMap_cons,
        List.append_assoc]

theorem items_groups (areGroups : ∀ group ∈ groups, IsGroup group) :
    items groups.flatten = groups.flatMap items := by
  have readLast := items_groups_append areGroups []
  rwa [List.append_nil, items, List.append_nil] at readLast

theorem isClosed_group_append (isGroup : IsGroup group) (rest : List Text) :
    isClosed (group ++ rest) = isClosed rest := by
  cases isGroup with
  | alone notTerminator standsAlone =>
      rw [List.cons_append, List.nil_append, isClosed.eq_def]
      simp only [if_neg notTerminator, standsAlone]
      rfl
  | @valued word takes value =>
      have notTerminator : word ≠ ['-', '-'] := by
        rintro rfl
        cases takes
      rw [List.cons_append, List.cons_append, List.nil_append, isClosed.eq_def]
      simp only [if_neg notTerminator, if_pos takes]

/-- A closed line is a sequence of groups. -/
theorem isClosed_iff :
    isClosed front = true ↔
      ∃ groups : List (List Text), groups.flatten = front ∧ ∀ group ∈ groups, IsGroup group := by
  constructor
  · intro closed
    -- The recursion of `isClosed` takes one group at a time from the front.
    induction front using isClosed.induct with
    | case1 =>
        exact ⟨[], rfl, by simp⟩
    | case2 rest =>
        rw [isClosed.eq_def] at closed
        cases closed
    | case3 word notTerminator takes =>
        rw [isClosed.eq_def] at closed
        simp only [if_neg notTerminator, if_pos takes] at closed
        cases closed
    | case4 word notTerminator takes value others inductionHypothesis =>
        have isGroup : IsGroup [word, value] := .valued takes value
        obtain ⟨groups, flattenEq, areGroups⟩ :=
          inductionHypothesis ((isClosed_group_append isGroup others).symm.trans closed)
        refine ⟨[word, value] :: groups, ?_, List.forall_mem_cons.mpr ⟨isGroup, areGroups⟩⟩
        rw [List.flatten_cons, flattenEq]
        rfl
    | case5 word others notTerminator standsAlone inductionHypothesis =>
        have isGroup : IsGroup [word] :=
          .alone notTerminator (Bool.eq_false_iff.mpr standsAlone)
        obtain ⟨groups, flattenEq, areGroups⟩ :=
          inductionHypothesis ((isClosed_group_append isGroup others).symm.trans closed)
        refine ⟨[word] :: groups, ?_, List.forall_mem_cons.mpr ⟨isGroup, areGroups⟩⟩
        rw [List.flatten_cons, flattenEq]
        rfl
  · rintro ⟨groups, rfl, areGroups⟩
    induction groups with
    | nil =>
        rfl
    | cons first others inductionHypothesis =>
        rw [List.flatten_cons, isClosed_group_append (areGroups first List.mem_cons_self)]
        exact inductionHypothesis fun group member =>
          areGroups group (List.mem_cons_of_mem first member)

/-- What follows a closed line is read as if it stood alone. -/
theorem items_append_of_isClosed (closed : isClosed front = true) (back : List Text) :
    items (front ++ back) = items front ++ items back := by
  obtain ⟨groups, rfl, areGroups⟩ := isClosed_iff.mp closed
  rw [items_groups_append areGroups, items_groups areGroups]

/-! ## Flags of joined lines -/

namespace Flags

/-- The flags of a line and of another one behind it. -/
def append (front back : Flags) : Flags where
  values := front.values ++ back.values
  switches := front.switches ++ back.switches
  positionals := front.positionals ++ back.positionals

theorem ofItems_append (front back : List Item) :
    ofItems (front ++ back) = (ofItems front).append (ofItems back) := by
  simp only [ofItems, append, List.filterMap_append]

theorem ofItems_positionals (words : List Text) :
    ofItems (words.map .positional) = ⟨[], [], words⟩ := by
  induction words with
  | nil =>
      rfl
  | cons word rest inductionHypothesis =>
      rw [List.map_cons, ← List.singleton_append, ofItems_append, inductionHypothesis]
      rfl

theorem valuesOf_append (front back : Flags) (names : List Text) :
    (front.append back).valuesOf names = front.valuesOf names ++ back.valuesOf names := by
  simp only [valuesOf, append, List.filter_append, List.map_append]

/-- The flags of a closed line come before those of what follows it, also those that are the values
of one flag under several names.  After `--` all words are positional.  Every word of a closed line
is in one of its groups, and each group is read as something. -/
theorem ofWords_append_of_isClosed (closed : isClosed front = true) (back : List Text) :
    ofWords (front ++ back) = (ofWords front).append (ofWords back) ∧
    ofWords (front ++ ["--".toList] ++ back) =
      { values := (ofWords front).values
        switches := (ofWords front).switches
        positionals := (ofWords front).positionals ++ back } ∧
    (∀ names, (ofWords (front ++ back)).valuesOf names =
      (ofWords front).valuesOf names ++ (ofWords back).valuesOf names) ∧
    ∃ groups : List (List Text), groups.flatten = front ∧
      (∀ group ∈ groups, IsGroup group ∧ items group ≠ []) ∧
      items front = groups.flatMap items := by
  have joined (rest : List Text) :
      ofWords (front ++ rest) = (ofWords front).append (ofWords rest) := by
    rw [ofWords, items_append_of_isClosed closed, ofItems_append]
    rfl
  refine ⟨joined back, ?_, ?_, ?_⟩
  · have terminated : ofWords ("--".toList :: back) = ⟨[], [], back⟩ := by
      rw [ofWords]
      exact (congrArg ofItems (items_terminator back)).trans (ofItems_positionals back)
    rw [List.append_assoc, List.singleton_append, joined, terminated]
    simp only [append, List.append_nil]
  · intro names
    rw [joined, valuesOf_append]
  · obtain ⟨groups, rfl, areGroups⟩ := isClosed_iff.mp closed
    exact ⟨groups, rfl, fun group member =>
      ⟨areGroups group member, (items_group (areGroups group member)).1⟩, items_groups areGroups⟩

/-- A closed line whose values look like flags and like `--`. -/
def disguisedValues : List Text :=
  ["-dp", "--", "--env", "-p", "-ite=", "A=1", "web"].map String.toList

theorem ofWords_append_disguisedValues :
    isClosed disguisedValues = true ∧
      ofWords (disguisedValues ++ ["-p".toList, "80:80".toList]) =
        { values :=
            [("p", "--"), ("env", "-p"), ("e", "A=1"), ("p", "80:80")].map fun entry =>
              (entry.1.toList, entry.2.toList)
          switches := ["d", "i", "t"].map String.toList
          positionals := ["web".toList] } ∧
      ofWords (disguisedValues ++ ["--".toList] ++ ["-p".toList, "80:80".toList]) =
        { values :=
            [("p", "--"), ("env", "-p"), ("e", "A=1")].map fun entry =>
              (entry.1.toList, entry.2.toList)
          switches := ["d", "i", "t"].map String.toList
          positionals := ["web", "-p", "80:80"].map String.toList } := by
  have closed : isClosed disguisedValues = true := by
    decide
  obtain ⟨joined, terminated, -, -⟩ :=
    ofWords_append_of_isClosed closed ["-p".toList, "80:80".toList]
  refine ⟨closed, ?_, ?_⟩
  · rw [joined]
    decide
  · rw [terminated]
    decide

end Flags

end RunManifest.CommandLine
