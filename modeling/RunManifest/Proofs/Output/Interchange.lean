import RunManifest.Proofs.Output.Resuming

/-!
# Attempts in either order

Where the directories for two names have places side by side, what two attempts leave can only
depend on their order at these two places.  It does so if and only if one of the attempts takes its
directory away and each path leads somewhere after the other attempt or neither does.  Where the
directories have no places, both attempts are refused in either order.
-/

namespace RunManifest

/-- Trees that are the same but for two locations are equal if they are the same there. -/
theorem FileTree.eq_iff_of_same_elsewhere {tree later : FileTree} {one other : Location}
    (same : ∀ location, location ≠ one → location ≠ other →
      tree.get? location = later.get? location) :
    tree = later ↔ tree.get? one = later.get? one ∧ tree.get? other = later.get? other := by
  constructor
  · rintro rfl
    exact ⟨rfl, rfl⟩
  · rintro ⟨atOne, atOther⟩
    apply ext_get?
    intro location
    by_cases isOne : location = one
    · rw [isOne, atOne]
    · by_cases isOther : location = other
      · rw [isOther, atOther]
      · exact same location isOne isOther

namespace OutputPaths

open FileTree

variable {files tree next otherNext : FileTree} {base : Base} {root : Path} {name other : Text}
variable {paths others : OutputPaths} {artifacts otherArtifacts : Artifacts}
variable {spot location : Location} {isNew otherIsNew : Bool} {one two : WriteReport}

section SideBySide

variable (beside : SideBySide tree base root name other paths others spot)
variable (wrote : writeAs tree base paths artifacts isNew = one)
variable (otherWrote : writeAs tree base others otherArtifacts otherIsNew = two)

include beside wrote otherWrote

/-- Below the directory of the second attempt, it makes no difference that it is the second. -/
theorem get?_writeAfter_below (within : Path.ofText other :: spot <:+ location)
    (different : location ≠ Path.ofText other :: spot) :
    (writeAfter one base others otherArtifacts).files.get? location =
      (writeAfter two base paths artifacts).files.get? location := by
  obtain ⟨next, resumes⟩ := beside.exists_resumes wrote otherArtifacts
  obtain ⟨otherNext, otherResumes⟩ := beside.symm.exists_resumes otherWrote artifacts
  rw [get?_writeAfter_of_within beside wrote resumes within,
    get?_writeAfter_of_outside beside.symm otherResumes (beside.symm.not_within within),
    otherResumes.elsewhere location different, ← otherWrote]
  exact get?_writeAs_of_ne beside.otherAccepted beside.otherNames otherArtifacts _ _ different

/-- Only the places of the two directories can depend on the order of the attempts. -/
theorem get?_writeAfter_of_ne (different : location ≠ Path.ofText name :: spot)
    (otherDifferent : location ≠ Path.ofText other :: spot) :
    (writeAfter one base others otherArtifacts).files.get? location =
      (writeAfter two base paths artifacts).files.get? location := by
  by_cases otherWithin : Path.ofText other :: spot <:+ location
  · exact get?_writeAfter_below beside wrote otherWrote otherWithin otherDifferent
  · by_cases within : Path.ofText name :: spot <:+ location
    · exact (get?_writeAfter_below beside.symm otherWrote wrote within different).symm
    · obtain ⟨next, resumes⟩ := beside.exists_resumes wrote otherArtifacts
      obtain ⟨otherNext, otherResumes⟩ := beside.symm.exists_resumes otherWrote artifacts
      rw [get?_writeAfter_of_outside beside resumes otherWithin,
        get?_writeAfter_of_outside beside.symm otherResumes within,
        get?_next beside wrote resumes within,
        get?_next beside.symm otherWrote otherResumes otherWithin]

/-- An attempt that keeps all directories on the way leaves the same at its place whether it is the
first or the second. -/
theorem get?_place_of_keeps (keeps : KeepsDirectories tree one.files)
    (old : isNew = false → tree.get? (Path.ofText name :: spot) ≠ none)
    (otherOld : isNew = false → (Path.ofText other).length ≤ nameLimit →
      tree.get? (Path.ofText other :: spot) ≠ none → otherIsNew = false) :
    (writeAfter one base others otherArtifacts).files.get? (Path.ofText name :: spot) =
      (writeAfter two base paths artifacts).files.get? (Path.ofText name :: spot) := by
  obtain ⟨next, resumes⟩ := beside.exists_resumes wrote otherArtifacts
  obtain ⟨otherNext, otherResumes⟩ := beside.symm.exists_resumes otherWrote artifacts
  rw [get?_writeAfter_of_outside beside resumes (beside.not_within List.suffix_rfl),
    get?_writeAfter_of_within beside.symm otherWrote otherResumes List.suffix_rfl,
    (resumes.ofKept keeps).1, ← wrote]
  rcases writeAs_new beside.accepted beside.names artifacts with same | ⟨free, loses⟩
  · have either (flag : Bool) :
        (writeAs tree base paths artifacts flag).files =
          (writeAs tree base paths artifacts false).files := by
      cases flag with
      | false =>
          rfl
      | true =>
          exact same
    rw [either, either (!_)]
  · have short : (Path.ofText name).length ≤ nameLimit := by
      by_contra long
      exact free fun short => absurd short long
    have found := exists_other_iff beside.symm otherWrote otherResumes
    -- The directory is empty in the end, so that it matters whether it counts as new.
    suffices sameFlag : (!two.files.exists? (base.settle two.files) paths.directory) = isNew by
      rw [sameFlag]
    cases isNew with
    | false =>
        have keepsToo : KeepsDirectories tree two.files := by
          by_contra lost
          rw [← otherWrote] at lost
          obtain ⟨isTrue, otherShort, stood, -⟩ :=
            losesEmpty_of_not_keeps beside.otherAccepted beside.otherNames otherArtifacts lost
          rw [otherOld rfl otherShort (by simp [stood])] at isTrue
          cases isTrue
        rw [found.mpr ⟨short, old rfl, _, (otherResumes.ofKept keepsToo).2⟩, Bool.not_true]
    | true =>
        have absent : tree.get? (Path.ofText name :: spot) = none := by
          by_contra present
          refine free fun _ => ⟨present, fun stood => ?_⟩
          have kept := keeps _ stood
          rw [← wrote, loses.get?_eq, if_pos rfl] at kept
          cases kept
        rw [Bool.not_eq_true', Bool.eq_false_iff]
        intro isThere
        exact (found.mp isThere).2.1 absent

/-- Where the first attempt takes away a directory on the way, the second makes it again unless its
path still leads to its place.  In the other order, the directory is taken away unless the attempt
for it does not find it any more. -/
theorem get?_place_of_lost (lost : ¬ KeepsDirectories tree one.files) :
    (writeAfter one base others otherArtifacts).files.get? (Path.ofText name :: spot) =
        (writeAfter two base paths artifacts).files.get? (Path.ofText name :: spot) ↔
      ¬ (LeadsAfter one base others ↔ LeadsAfter two base paths) := by
  obtain ⟨next, resumes⟩ := beside.exists_resumes wrote otherArtifacts
  obtain ⟨otherNext, otherResumes⟩ := beside.symm.exists_resumes otherWrote artifacts
  have found := exists_other_iff beside.symm otherWrote otherResumes
  have vacant_iff : next.get? (Path.ofText name :: spot) = none ↔ LeadsAfter one base others :=
    resumes.ofLost lost
  rw [get?_writeAfter_of_outside beside resumes (beside.not_within List.suffix_rfl),
    get?_writeAfter_of_within beside.symm otherWrote otherResumes List.suffix_rfl]
  rw [← wrote] at lost
  obtain ⟨rfl, short, stood, loses⟩ :=
    losesEmpty_of_not_keeps beside.accepted beside.names artifacts lost
  have gone :
      (writeAs tree base paths artifacts true).files.get? (Path.ofText name :: spot) = none := by
    rw [loses.get?_eq, if_pos rfl]
  have madeOrNot :
      next.get? (Path.ofText name :: spot) = none ∨
        next.get? (Path.ofText name :: spot) = some .directory := by
    rcases resumes.adds (Path.ofText name :: spot) with same | ⟨-, made⟩
    · rw [same, ← wrote]
      exact .inl gone
    · exact .inr made
  by_cases otherLeads : LeadsAfter two base paths
  · rw [found.mpr ⟨short, by simp [stood], otherLeads⟩, Bool.not_true, loses.stood,
      iff_true_right otherLeads, ← vacant_iff]
    rcases madeOrNot with vacant | made
    · simp [vacant]
    · simp [made]
  · have notFound : two.files.exists? (base.settle two.files) paths.directory = false := by
      rw [Bool.eq_false_iff]
      exact fun isThere => otherLeads (found.mp isThere).2.2
    rw [notFound, Bool.not_false, gone, iff_false_right otherLeads, not_not, vacant_iff]

/-- What is left depends on the order of the attempts if and only if one of them takes away a
directory on the way and each path leads somewhere after the other attempt or neither does. -/
theorem files_writeAfter_eq_iff
    (old : isNew = false → tree.get? (Path.ofText name :: spot) ≠ none ∧
      ((Path.ofText other).length ≤ nameLimit →
        tree.get? (Path.ofText other :: spot) ≠ none → otherIsNew = false))
    (otherOld : otherIsNew = false → tree.get? (Path.ofText other :: spot) ≠ none ∧
      ((Path.ofText name).length ≤ nameLimit →
        tree.get? (Path.ofText name :: spot) ≠ none → isNew = false)) :
    (writeAfter one base others otherArtifacts).files =
        (writeAfter two base paths artifacts).files ↔
      ¬ ((¬ KeepsDirectories tree one.files ∨ ¬ KeepsDirectories tree two.files) ∧
        (LeadsAfter one base others ↔ LeadsAfter two base paths)) := by
  have atPlace :
      (writeAfter one base others otherArtifacts).files.get? (Path.ofText name :: spot) =
          (writeAfter two base paths artifacts).files.get? (Path.ofText name :: spot) ↔
        KeepsDirectories tree one.files ∨
          ¬ (LeadsAfter one base others ↔ LeadsAfter two base paths) := by
    by_cases keeps : KeepsDirectories tree one.files
    · simp only [keeps, true_or, iff_true]
      exact get?_place_of_keeps beside wrote otherWrote keeps (fun flag => (old flag).1)
        (fun flag => (old flag).2)
    · simp only [keeps, false_or]
      exact get?_place_of_lost beside wrote otherWrote keeps
  have atOther :
      (writeAfter one base others otherArtifacts).files.get? (Path.ofText other :: spot) =
          (writeAfter two base paths artifacts).files.get? (Path.ofText other :: spot) ↔
        KeepsDirectories tree two.files ∨
          ¬ (LeadsAfter one base others ↔ LeadsAfter two base paths) := by
    rw [eq_comm, iff_comm (a := LeadsAfter one base others)]
    by_cases keeps : KeepsDirectories tree two.files
    · simp only [keeps, true_or, iff_true]
      exact get?_place_of_keeps beside.symm otherWrote wrote keeps (fun flag => (otherOld flag).1)
        (fun flag => (otherOld flag).2)
    · simp only [keeps, false_or]
      exact get?_place_of_lost beside.symm otherWrote wrote keeps
  rw [eq_iff_of_same_elsewhere fun _ => get?_writeAfter_of_ne beside wrote otherWrote, atPlace,
    atOther, ← and_or_right, not_and_or, not_or, not_not, not_not]

end SideBySide

/-! ## Where nothing can be made -/

theorem write_of_refused {left : FileTree} {cause : SystemError}
    (whole : files.makeDirectories base paths.directory = (left, .error cause))
    (artifacts : Artifacts) :
    (paths.write files base artifacts).files = left ∧
      (paths.write files base artifacts).outcome.isOk = false := by
  simp only [write, whole, true_and]
  rfl

/-- An attempt with a path that the system does not follow does nothing at all. -/
theorem write_of_not_usable (accepted : under root name = .ok paths)
    (notUsable : ¬ IsUsable paths.directory) (files : FileTree) (base : Base)
    (artifacts : Artifacts) :
    (paths.write files base artifacts).files = files ∧
      (paths.write files base artifacts).outcome.isOk = false := by
  obtain ⟨cause, whole⟩ :=
    makeDirectories_of_not_isUsable (directory_ne_nil accepted) notUsable files base
  exact write_of_refused whole artifacts

/-- Where the way to the directories cannot be made, both attempts leave what could be made of it,
and leave it alone when it is there. -/
structure BothRefused (files left : FileTree) (base : Base) (paths others : OutputPaths) :
    Prop where
  first : ∃ cause, files.makeDirectories base paths.directory = (left, .error cause)
  otherFirst : ∃ cause, files.makeDirectories base others.directory = (left, .error cause)
  second : ∃ cause, left.makeDirectories base paths.directory = (left, .error cause)
  otherSecond : ∃ cause, left.makeDirectories base others.directory = (left, .error cause)

theorem makeDirectories_again (accepted : under root name = .ok paths)
    (usable : IsUsable paths.directory) (settled : base.settle files = base) {left : FileTree}
    {cause : SystemError}
    (whole : files.makeDirectories base paths.directory = (left, .error cause))
    (noPlace : ∀ location, ¬ left.NamesEntry base paths.directory location) :
    ∃ cause, left.makeDirectories base paths.directory = (left, .error cause) := by
  have again : (left.makeDirectories base paths.directory).1 = left := by
    have same := makeWithParents_again (isWay_of_under accepted usable base) settled
    rw [makeDirectories] at whole
    rw [whole] at same
    exact same
  rcases wholeAgain : left.makeDirectories base paths.directory with ⟨later, _ | _⟩
  · rw [wholeAgain] at again
    cases again
    exact ⟨_, rfl⟩
  · rw [wholeAgain] at again
    cases again
    have leads := isDirectory_of_makeDirectories (directory_ne_nil accepted) wholeAgain
    obtain ⟨-, location, names, -⟩ :=
      (exists_iff_namesEntry (directoryEnds_of_under accepted)).mp (exists_of_isDirectory leads)
    exact absurd names (noPlace location)

theorem exists_bothRefused (accepted : under root name = .ok paths)
    (otherAccepted : under root other = .ok others) (usable : IsUsable paths.directory)
    (otherUsable : IsUsable others.directory) (settled : base.settle files = base)
    (noPlace : ∀ location, ¬ (wayTo files base paths).NamesEntry base paths.directory location) :
    ∃ left, BothRefused files left base paths others := by
  have ends := directoryEnds_of_under accepted
  have otherEnds := directoryEnds_of_under otherAccepted
  have sameStart : paths.directory.isAbsolute = others.directory.isAbsolute := by
    rw [isAbsolute_of_under accepted, isAbsolute_of_under otherAccepted]
  have sameWay := wayTo_eq accepted otherAccepted files base
  have adds := addsDirectories_wayTo files base paths
  have otherNoPlace (location : Location) :
      ¬ (wayTo files base paths).NamesEntry base others.directory location := by
    intro names
    obtain ⟨spot, rfl⟩ := exists_spot otherAccepted names
    exact noPlace _ (namesEntry_other otherAccepted accepted usable names)
  have sameCause :
      files.makeDirectory base paths.directory = files.makeDirectory base others.directory :=
    makeDirectory_eq_of_siblings ends otherEnds sameStart usable otherUsable
      fun location names => noPlace _ (names.of_keepsDirectories adds.keepsDirectories)
  have refusedBoth {left : FileTree} {cause otherCause : SystemError}
      (whole : files.makeDirectories base paths.directory = (left, .error cause))
      (otherWhole : files.makeDirectories base others.directory = (left, .error otherCause))
      (within : KeepsDirectories left (wayTo files base paths)) :
      BothRefused files left base paths others :=
    { first := ⟨cause, whole⟩
      otherFirst := ⟨otherCause, otherWhole⟩
      second := makeDirectories_again accepted usable settled whole
        fun location names => noPlace _ (names.of_keepsDirectories within)
      otherSecond := makeDirectories_again otherAccepted otherUsable settled otherWhole
        fun location names => otherNoPlace _ (names.of_keepsDirectories within) }
  rw [sameWay] at otherNoPlace
  obtain ⟨otherCause, otherResult⟩ := makeWithParents_of_no_slot otherEnds otherNoPlace
  obtain ⟨cause, ⟨whole, missing⟩ | ⟨whole, decided⟩⟩ := makeWithParents_of_no_slot ends noPlace
  · rcases otherResult with ⟨otherWhole, -⟩ | ⟨-, otherDecided⟩
    · have otherWholeHere :
          files.makeDirectories base others.directory =
            (wayTo files base paths, .error otherCause) := by
        rw [sameWay]
        exact otherWhole
      exact ⟨_, refusedBoth whole otherWholeHere fun _ directory => directory⟩
    · exact absurd (sameCause.symm.trans missing) otherDecided
  · rcases otherResult with ⟨-, otherMissing⟩ | ⟨otherWhole, -⟩
    · exact absurd (sameCause.trans otherMissing) decided
    · exact ⟨files, refusedBoth whole otherWhole adds.keepsDirectories⟩

end OutputPaths

end RunManifest
