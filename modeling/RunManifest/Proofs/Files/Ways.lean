import RunManifest.Proofs.Files.Lasting

/-!
# Making directories on the way

Making the directories on a way that leads to a directory changes nothing, and making them twice is
making them once.  Where a later tree leads to the end of the way, nothing is made that this tree
does not have (`makeWithParents_within`).
-/

namespace RunManifest.FileTree

open Outcomes

variable {tree later : FileTree} {base : Base} {path parent : Path} {parents : List Path}
variable {name : Bytes}

/-- Where the directory that holds an entry is there and a later tree has a directory as the entry,
the entry is a directory already or can be made one. -/
theorem isDirectory_or_makeDirectory (adds : AddsDirectories tree later)
    (settled : base.settle tree = base) (leads : later.isDirectory base path = true)
    (found : ∃ target, tree.target base path = .ok target) :
    tree.isDirectory base path = true ∨
      ∃ made, tree.makeDirectory base path = .ok made ∧ AddsDirectories made later := by
  obtain ⟨usable, place, walked, directory⟩ := isDirectory_iff_walk.mp leads
  have startStands := standsIn_startPlace settled path
  rcases List.eq_nil_or_concat (Path.names path) with bare | ⟨before, name, concat⟩
  · left
    rw [bare] at walked
    cases walked
    rw [isDirectory_iff_walk, bare]
    exact ⟨usable, _, rfl, entryAt?_of_standsIn adds startStands directory⟩
  · have namesEq : Path.names path = before ++ [name] := by
      rw [concat, List.concat_eq_append]
    obtain ⟨here, reached, inside⟩ := (exists_target_iff namesEq).mp found
    have walkedTo : tree.walk (startPlace base path) before = .ok here := by
      rw [reach, startOf_of_isUsable usable] at reached
      exact reached
    rw [namesEq, walk_concat_eq_ok_iff] at walked
    obtain ⟨_, walkedLater, entered⟩ := walked
    rw [walk_of_keepsDirectories adds.keepsDirectories walkedTo inside] at walkedLater
    cases walkedLater
    by_cases missing : tree.enter here name = .error .notFound
    · right
      have notDot : name ≠ Path.dot := by
        rintro rfl
        rw [enter_dot inside] at missing
        cases missing
      have notDotDot : name ≠ Path.dotDot := by
        rintro rfl
        rw [enter_dotDot inside] at missing
        cases missing
      obtain ⟨stays, -, short, -, rfl⟩ := (enter_eq_ok_iff notDot notDotDot).mp entered
      rw [entryAt?_of_not_removed stays] at inside
      have vacant : tree.get? (name :: here.location) = none := by
        by_contra present
        rw [(enter_eq_ok_iff notDot notDotDot).mpr ⟨stays, inside, short, present, rfl⟩] at missing
        cases missing
      have aimed : tree.target base path = .ok (.slot ⟨here.location, name, inside⟩) :=
        target_eq_slot_iff_reach.mpr
          ⟨before, here, namesEq, notDot, notDotDot, reached, stays, rfl⟩
      refine ⟨_, makeDirectory_eq_ok_iff.mpr ⟨_, aimed, short, vacant, rfl⟩, ?_⟩
      intro location
      rw [get?_put]
      split
      · rename_i atSlot
        rw [entryAt?_of_not_removed rfl] at directory
        left
        rw [atSlot]
        exact directory
      · exact adds location
    · left
      rw [enter_of_addsDirectories adds missing] at entered
      have stands := standsIn_of_enter (standsIn_of_walk startStands walkedTo) entered
      rw [isDirectory_iff_walk, namesEq]
      exact ⟨usable, place, walk_concat_eq_ok_iff.mpr ⟨here, walkedTo, entered⟩,
        entryAt?_of_standsIn adds stands directory⟩

theorem makeWithParents_of_isDirectory (leads : tree.isDirectory base path = true)
    (parents : List Path) :
    tree.makeWithParents base (path :: parents) = (tree, .ok ()) := by
  have present : path ≠ [] := by
    rintro rfl
    cases leads
  rw [makeWithParents, if_neg present, makeDirectory_of_exists (exists_of_isDirectory leads)]
  simp only [acceptDirectory, if_pos leads]

theorem makeWithParents_of_makeDirectory (present : path ≠ [])
    (made : tree.makeDirectory base path = .ok later) (parents : List Path) :
    tree.makeWithParents base (path :: parents) = (later, .ok ()) := by
  rw [makeWithParents, if_neg present, made]

theorem makeWithParents_of_refused (present : path ≠ []) {cause : SystemError}
    (refused : tree.makeDirectory base path = .error cause) (decided : cause ≠ .notFound)
    (parents : List Path) :
    tree.makeWithParents base (path :: parents) =
      (tree, tree.acceptDirectory base path cause) := by
  rw [makeWithParents, if_neg present, refused]
  cases cause <;> first | rfl | exact absurd rfl decided

theorem makeDirectories_of_not_isUsable (present : path ≠ []) (notUsable : ¬ IsUsable path)
    (tree : FileTree) (base : Base) :
    ∃ cause, tree.makeDirectories base path = (tree, .error cause) := by
  obtain ⟨cause, started, decided⟩ := startOf_of_not_isUsable present notUsable base
  have refused : tree.makeDirectory base path = .error cause := by
    rw [makeDirectory, target, started]
    rfl
  have notDirectory : ¬ tree.isDirectory base path = true := by
    intro leads
    exact notUsable (isDirectory_iff_walk.mp leads).1
  refine ⟨cause, ?_⟩
  rw [makeDirectories, makeWithParents_of_refused present refused decided, acceptDirectory,
    if_neg notDirectory]

theorem makeWithParents_of_whole {prepared : FileTree} (present : path ≠ [])
    (missing : tree.makeDirectory base path = .error .notFound)
    (whole : tree.makeWithParents base parents = (prepared, .ok ())) :
    tree.makeWithParents base (path :: parents) =
      match prepared.makeDirectory base path with
      | .ok made => (made, .ok ())
      | .error cause => (prepared, prepared.acceptDirectory base path cause) := by
  cases madeThen : prepared.makeDirectory base path with
  | ok made =>
      simp only [makeWithParents, if_neg present, missing, whole, madeThen]
  | error cause =>
      simp only [makeWithParents, if_neg present, missing, whole, madeThen]

/-- Where something is missing, the parents are made first, and then the directory is made if it can
be. -/
theorem makeWithParents_of_missing (present : path ≠ [])
    (missing : tree.makeDirectory base path = .error .notFound) (parents : List Path) :
    (tree.makeWithParents base (path :: parents)).1 = (tree.makeWithParents base parents).1 ∨
      ∃ made, (tree.makeWithParents base parents).1.makeDirectory base path = .ok made ∧
        tree.makeWithParents base (path :: parents) = (made, .ok ()) := by
  rw [makeWithParents, if_neg present, missing]
  rcases tree.makeWithParents base parents with ⟨prepared, _ | _⟩
  · exact .inl rfl
  · cases madeThen : prepared.makeDirectory base path with
    | ok made =>
        exact .inr ⟨made, rfl, by simp only [madeThen]⟩
    | error cause =>
        left
        simp only [madeThen]

/-- If the directory is not there in the end, no more is made than on the way to it, or nothing. -/
theorem makeWithParents_of_not_isDirectory (present : path ≠ [])
    (notThere : ¬ (tree.makeWithParents base (path :: parents)).1.isDirectory base path = true) :
    (tree.makeWithParents base (path :: parents)).1 = (tree.makeWithParents base parents).1 ∨
      ∃ cause, tree.makeDirectory base path = .error cause ∧ cause ≠ .notFound ∧
        (tree.makeWithParents base (path :: parents)).1 = tree := by
  cases first : tree.makeDirectory base path with
  | ok made =>
      rw [makeWithParents_of_makeDirectory present first] at notThere
      exact absurd (isDirectory_of_makeDirectory first) notThere
  | error cause =>
      by_cases missing : cause = .notFound
      · subst missing
        rcases makeWithParents_of_missing present first parents with same | ⟨made, madeEq, whole⟩
        · exact .inl same
        · rw [whole] at notThere
          exact absurd (isDirectory_of_makeDirectory madeEq) notThere
      · exact .inr ⟨cause, rfl, missing,
          by rw [makeWithParents_of_refused present first missing]⟩

/-- Once the way is made, it makes no difference whether that has been done before. -/
theorem makeWithParents_eq_of_whole {prepared : FileTree} (present : path ≠ [])
    (missing : tree.makeDirectory base path = .error .notFound)
    (whole : tree.makeWithParents base (parent :: parents) = (prepared, .ok ()))
    (leads : prepared.isDirectory base parent = true) :
    tree.makeWithParents base (path :: parent :: parents) =
      prepared.makeWithParents base (path :: parent :: parents) := by
  rw [makeWithParents_of_whole present missing whole]
  cases second : prepared.makeDirectory base path with
  | ok made =>
      rw [makeWithParents_of_makeDirectory present second]
  | error cause =>
      by_cases missingStill : cause = .notFound
      · subst missingStill
        rw [makeWithParents_of_whole present second
          (makeWithParents_of_isDirectory leads parents), second]
      · rw [makeWithParents_of_refused present second missingStill]

theorem exists_target_of_isDirectory (leads : tree.isDirectory base path = true) :
    ∃ target, tree.target base path = .ok target := by
  rcases target_of_exists (exists_of_isDirectory leads) with aimed | ⟨slot, aimed, -⟩
  · exact ⟨_, aimed⟩
  · exact ⟨_, aimed⟩

/-- Where the end of a way is a directory, so is everything on it.  The directory in which relative
paths start is written as the empty path. -/
theorem isDirectory_of_mem_way (way : IsWay base path parents)
    (leads : tree.isDirectory base path = true) :
    ∀ step ∈ parents, step = [] ∨ tree.isDirectory base step = true := by
  induction way with
  | start =>
      exact nofun
  | root =>
      exact nofun
  | @step path parent parents present liesIn way inductionHypothesis =>
      rw [List.forall_mem_cons]
      rcases (liesIn tree).mp (exists_target_of_isDirectory leads) with ⟨rfl, -⟩ | leadsToParent
      · -- Nothing is on the way to the directory in which relative paths start.
        cases way with
        | start =>
            exact ⟨.inl rfl, nofun⟩
        | step present liesIn way =>
            exact absurd rfl present
      · exact ⟨.inr leadsToParent, inductionHypothesis leadsToParent⟩

theorem keepsDirectories_makeWithParents (tree : FileTree) (base : Base) (paths : List Path) :
    KeepsDirectories tree (tree.makeWithParents base paths).1 :=
  (addsNamed_makeWithParents tree base paths).addsDirectories.keepsDirectories

theorem makeWithParents_within_of_target (present : path ≠ [])
    (adds : AddsDirectories tree later) (settled : base.settle tree = base)
    (leads : later.isDirectory base path = true)
    (found : ∃ target, tree.target base path = .ok target) (parents : List Path) :
    ∃ made, tree.makeWithParents base (path :: parents) = (made, .ok ()) ∧
      AddsDirectories made later ∧ made.isDirectory base path = true := by
  rcases isDirectory_or_makeDirectory adds settled leads found with already | ⟨made, madeEq, within⟩
  · exact ⟨tree, makeWithParents_of_isDirectory already parents, adds, already⟩
  · exact ⟨made, makeWithParents_of_makeDirectory present madeEq parents, within,
      isDirectory_of_makeDirectory madeEq⟩

/-- Where a later tree leads to the end of a way, the directories on the way can be made, and what
is made is in the later tree. -/
theorem makeWithParents_within (way : IsWay base path parents)
    (adds : AddsDirectories tree later) (settled : base.settle tree = base)
    (leads : later.isDirectory base path = true) :
    ∃ made, tree.makeWithParents base (path :: parents) = (made, .ok ()) ∧
      AddsDirectories made later ∧ made.isDirectory base path = true := by
  induction way with
  | start =>
      cases leads
  | root =>
      exact makeWithParents_within_of_target (by simp) adds settled leads ⟨.unnamed, rfl⟩ []
  | @step path parent parents present liesIn way inductionHypothesis =>
      cases aimed : tree.target base path with
      | ok target =>
          exact makeWithParents_within_of_target present adds settled leads ⟨target, aimed⟩ _
      | error cause =>
          by_cases missing : cause = .notFound
          · -- The later tree leads to the parent too, so that the parents can be made within it.
            subst missing
            have notMade : tree.makeDirectory base path = .error .notFound := by
              rw [makeDirectory, aimed]
              rfl
            rcases (liesIn later).mp (exists_target_of_isDirectory leads) with
              ⟨empty, -⟩ | leadsToParent
            · have inBase := (liesIn tree).mpr (.inl ⟨empty, entryAt?_of_settled settled⟩)
              rw [aimed] at inBase
              obtain ⟨_, same⟩ := inBase
              cases same
            · obtain ⟨prepared, preparedEq, within, parentThere⟩ :=
                inductionHypothesis leadsToParent
              have settledThen : base.settle prepared = base := by
                have keeps := keepsDirectories_makeWithParents tree base (parent :: parents)
                rw [preparedEq] at keeps
                exact settle_of_keepsDirectories keeps settled
              have found := (liesIn prepared).mpr (.inr parentThere)
              rw [makeWithParents, if_neg present, notMade, preparedEq]
              rcases isDirectory_or_makeDirectory within settledThen leads found with
                already | ⟨made, madeEq, madeWithin⟩
              · refine ⟨prepared, ?_, within, already⟩
                simp only [makeDirectory_of_exists (exists_of_isDirectory already),
                  acceptDirectory, if_pos already]
              · refine ⟨made, ?_, madeWithin, isDirectory_of_makeDirectory madeEq⟩
                simp only [madeEq]
          · obtain ⟨_, found⟩ := exists_target_of_isDirectory leads
            rw [target_of_addsDirectories adds settled missing aimed] at found
            cases found

/-- Making directories again changes nothing. -/
theorem makeWithParents_again (way : IsWay base path parents)
    (settled : base.settle tree = base) :
    ((tree.makeWithParents base (path :: parents)).1.makeWithParents base (path :: parents)).1 =
      (tree.makeWithParents base (path :: parents)).1 := by
  induction way with
  | start =>
      rfl
  | root =>
      rfl
  | @step path parent parents present liesIn way inductionHypothesis =>
      have adds := (addsNamed_makeWithParents tree base (path :: parent :: parents)).addsDirectories
      generalize laterEq :
        (tree.makeWithParents base (path :: parent :: parents)).1 = later at adds ⊢
      by_cases leads : later.isDirectory base path = true
      · rw [makeWithParents_of_isDirectory leads]
      · -- What could be made now would have been made in the first place.
        have notMade (made : FileTree) : later.makeDirectory base path ≠ .ok made := by
          intro madeEq
          have within := adds.trans (addsDirectories_of_makeDirectory madeEq)
          obtain ⟨reached, reachedEq, -, there⟩ :=
            makeWithParents_within (.step present liesIn way) within settled
              (isDirectory_of_makeDirectory madeEq)
          rw [reachedEq] at laterEq
          exact leads (laterEq ▸ there)
        cases refused : later.makeDirectory base path with
        | ok made =>
            exact absurd refused (notMade made)
        | error cause =>
            by_cases missing : cause = .notFound
            · subst missing
              have sameTree : (tree.makeWithParents base (parent :: parents)).1 = later := by
                rw [← laterEq] at leads
                rcases makeWithParents_of_not_isDirectory present leads with
                  same | ⟨cause, first, decided, same⟩
                · rw [← same, laterEq]
                · rw [← laterEq, same, first] at refused
                  cases refused
                  exact absurd rfl decided
              rw [sameTree] at inductionHypothesis
              rcases makeWithParents_of_missing present refused (parent :: parents) with
                same | ⟨made, madeEq, -⟩
              · rw [same, inductionHypothesis]
              · rw [inductionHypothesis] at madeEq
                exact absurd madeEq (notMade made)
            · rw [makeWithParents_of_refused present refused missing]

/-! ## The last directory -/

/-- Where the directory that holds an entry is there, nothing is made on the way to it. -/
theorem makeWithParents_parents_of_target {target : Target tree} (way : IsWay base path parents)
    (aimed : tree.target base path = .ok target) :
    (tree.makeWithParents base parents).1 = tree := by
  cases way with
  | start =>
      rfl
  | root =>
      rfl
  | step present liesIn way =>
      rcases (liesIn tree).mp ⟨target, aimed⟩ with ⟨rfl, -⟩ | leads
      · rfl
      · rw [makeWithParents_of_isDirectory leads]

/-- Once the directories on the way to an entry are there, it makes no difference whether they have
just been made. -/
theorem makeWithParents_of_prepared {prepared : FileTree} {slot : Slot prepared}
    (way : IsWay base path parents) (settled : base.settle tree = base)
    (preparedEq : (tree.makeWithParents base parents).1 = prepared)
    (aimed : prepared.target base path = .ok (.slot slot)) :
    tree.makeWithParents base (path :: parents) =
      prepared.makeWithParents base (path :: parents) := by
  cases firstAimed : tree.target base path with
  | ok target =>
      rw [← preparedEq, makeWithParents_parents_of_target way firstAimed]
  | error cause =>
      have refused : tree.makeDirectory base path = .error cause := by
        rw [makeDirectory, firstAimed]
        rfl
      by_cases missing : cause = .notFound
      · subst missing
        cases way with
        | start =>
            cases aimed
        | root =>
            cases firstAimed
        | @step _ parent parents present liesIn way =>
            rcases (liesIn prepared).mp ⟨_, aimed⟩ with ⟨rfl, -⟩ | leads
            · rw [← preparedEq]
              rfl
            · have adds :=
                (addsNamed_makeWithParents tree base (parent :: parents)).addsDirectories
              rw [preparedEq] at adds
              obtain ⟨made, whole, -, -⟩ := makeWithParents_within way adds settled leads
              rw [whole] at preparedEq
              cases preparedEq
              exact makeWithParents_eq_of_whole present refused whole leads
      · have adds := (addsNamed_makeWithParents tree base parents).addsDirectories
        rw [preparedEq] at adds
        rw [target_of_addsDirectories adds settled missing firstAimed] at aimed
        cases aimed

/-- Where the directory that holds an entry cannot be made, what is made of the way to it is what is
left, and it is only tried if the first try says that something is missing. -/
theorem makeWithParents_of_no_slot {before : List Bytes} (ends : path.EndsWithName before name)
    (noSlot : ∀ location, ¬ (tree.makeWithParents base parents).1.NamesEntry base path location) :
    ∃ cause, tree.makeWithParents base (path :: parents) =
        ((tree.makeWithParents base parents).1, .error cause) ∧
          tree.makeDirectory base path = .error .notFound ∨
      tree.makeWithParents base (path :: parents) = (tree, .error cause) ∧
        tree.makeDirectory base path ≠ .error .notFound := by
  have adds := (addsNamed_makeWithParents tree base parents).addsDirectories
  rcases whole : tree.makeWithParents base parents with ⟨prepared, outcome⟩
  simp only [whole] at adds noSlot ⊢
  have keepsSelf : KeepsDirectories prepared prepared := fun _ directory => directory
  have notMade {middle made : FileTree} (keeps : KeepsDirectories middle prepared) :
      middle.makeDirectory base path ≠ .ok made := by
    intro madeEq
    obtain ⟨slot, aimed, -⟩ := makeDirectory_eq_ok_iff.mp madeEq
    exact noSlot _ ⟨_, target_of_keepsDirectories keeps aimed, rfl⟩
  have notAccepted {middle : FileTree} (keeps : KeepsDirectories middle prepared)
      (cause : SystemError) : middle.acceptDirectory base path cause = .error cause := by
    rw [acceptDirectory, if_neg]
    intro leads
    obtain ⟨place, found, -⟩ :=
      isDirectory_eq_true_iff.mp (isDirectory_of_keepsDirectories keeps leads)
    obtain ⟨slot, aimed, -⟩ := (locate_eq_ok_iff ends).mp found
    exact noSlot _ ⟨slot, aimed, rfl⟩
  have present : path ≠ [] := by
    rintro rfl
    exact absurd ends.names_eq (by simp [Path.names, Path.pieces])
  cases first : tree.makeDirectory base path with
  | ok made =>
      exact absurd first (notMade adds.keepsDirectories)
  | error cause =>
      by_cases missing : cause = .notFound
      · subst missing
        cases outcome with
        | error cause =>
            refine ⟨cause, .inl ⟨?_, rfl⟩⟩
            rw [makeWithParents, if_neg present, first, whole]
        | ok _ =>
            rw [makeWithParents_of_whole present first whole]
            cases second : prepared.makeDirectory base path with
            | ok made =>
                exact absurd second (notMade keepsSelf)
            | error cause =>
                exact ⟨cause, .inl ⟨congrArg (Prod.mk prepared) (notAccepted keepsSelf cause), rfl⟩⟩
      · refine ⟨cause, .inr ⟨?_, by simpa using missing⟩⟩
        rw [makeWithParents_of_refused present first missing,
          notAccepted adds.keepsDirectories]

end RunManifest.FileTree
