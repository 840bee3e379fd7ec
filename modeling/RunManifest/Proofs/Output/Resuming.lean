import RunManifest.Proofs.Output.Attempt

/-!
# Attempts that follow one another

Under one root, the directories for two names have their places side by side.  An attempt for one of
them goes on from what an attempt for the other has left as if it were the first, but for one case:
the first attempt may have taken away a directory on the way, which the second then makes again
(`Resumes`).
-/

namespace RunManifest.OutputPaths

open FileTree

variable {files tree left : FileTree} {base : Base} {root : Path} {name other : Text}
variable {paths others : OutputPaths} {artifacts otherArtifacts : Artifacts}
variable {spot location : Location} {isNew otherIsNew : Bool}

/-- The tree once the directories on the way to the one for the files have been made. -/
def wayTo (files : FileTree) (base : Base) (paths : OutputPaths) : FileTree :=
  (files.makeWithParents base paths.directory.parents).1

theorem wayTo_eq (accepted : under root name = .ok paths)
    (otherAccepted : under root other = .ok others) (files : FileTree) (base : Base) :
    wayTo files base paths = wayTo files base others := by
  obtain ⟨component, directoryEq, -, -⟩ := under_eq_ok_iff.mp accepted
  obtain ⟨otherComponent, otherDirectoryEq, -, -⟩ := under_eq_ok_iff.mp otherAccepted
  rw [wayTo, wayTo, directoryEq, otherDirectoryEq,
    parents_join root (Name.isEntryName_of_isComponent component),
    parents_join root (Name.isEntryName_of_isComponent otherComponent)]

theorem addsDirectories_wayTo (files : FileTree) (base : Base) (paths : OutputPaths) :
    AddsDirectories files (wayTo files base paths) :=
  (addsNamed_makeWithParents files base _).addsDirectories

theorem isWay_of_under (accepted : under root name = .ok paths)
    (usable : IsUsable paths.directory) (base : Base) :
    IsWay base paths.directory paths.directory.parents := by
  obtain ⟨component, directoryEq, -, -⟩ := under_eq_ok_iff.mp accepted
  rw [directoryEq] at usable ⊢
  exact isWay_parents (Name.isEntryName_of_isComponent component) usable base

theorem isAbsolute_of_under (accepted : under root name = .ok paths) :
    paths.directory.isAbsolute = root.isAbsolute := by
  obtain ⟨component, directoryEq, -, -⟩ := under_eq_ok_iff.mp accepted
  rw [directoryEq]
  exact Path.isAbsolute_join_of_relative root (Name.isEntryName_of_isComponent component).relative

theorem usable_of_namesEntry (accepted : under root name = .ok paths)
    (names : tree.NamesEntry base paths.directory location) :
    IsUsable paths.directory :=
  ((namesEntry_iff_walk (directoryEnds_of_under accepted)).mp names).1

theorem exists_spot (accepted : under root name = .ok paths)
    (names : tree.NamesEntry base paths.directory location) :
    ∃ spot, location = Path.ofText name :: spot := by
  obtain ⟨-, here, -, -, -, same⟩ :=
    (namesEntry_iff_walk (directoryEnds_of_under accepted)).mp names
  exact ⟨here.location, same⟩

/-- Where the directory for one name has a place, the one for another name has its place beside. -/
theorem namesEntry_other (accepted : under root name = .ok paths)
    (otherAccepted : under root other = .ok others) (otherUsable : IsUsable others.directory)
    (names : tree.NamesEntry base paths.directory (Path.ofText name :: spot)) :
    tree.NamesEntry base others.directory (Path.ofText other :: spot) := by
  refine names.sibling (directoryEnds_of_under accepted) (directoryEnds_of_under otherAccepted) ?_
    otherUsable
  rw [isAbsolute_of_under accepted, isAbsolute_of_under otherAccepted]

/-- It makes no difference to an attempt whether the directories on the way have just been made. -/
theorem writeAs_wayTo (accepted : under root name = .ok paths)
    (settled : base.settle files = base)
    (names : (wayTo files base paths).NamesEntry base paths.directory location)
    (artifacts : Artifacts) (isNew : Bool) :
    writeAs files base paths artifacts isNew =
      writeAs (wayTo files base paths) base paths artifacts isNew := by
  have way := isWay_of_under accepted (usable_of_namesEntry accepted names) base
  obtain ⟨slot, aimed, -⟩ := names
  have same := makeWithParents_of_prepared way settled rfl aimed
  rw [writeAs, writeAs, makeDirectories, makeDirectories, same]
  rfl

/-- The directories for two names have their places in one directory. -/
structure SideBySide (tree : FileTree) (base : Base) (root : Path) (name other : Text)
    (paths others : OutputPaths) (spot : Location) : Prop where
  accepted : under root name = .ok paths
  otherAccepted : under root other = .ok others
  differ : name ≠ other
  settled : base.settle tree = base
  names : tree.NamesEntry base paths.directory (Path.ofText name :: spot)
  otherNames : tree.NamesEntry base others.directory (Path.ofText other :: spot)

theorem SideBySide.symm (beside : SideBySide tree base root name other paths others spot) :
    SideBySide tree base root other name others paths spot where
  accepted := beside.otherAccepted
  otherAccepted := beside.accepted
  differ := beside.differ.symm
  settled := beside.settled
  names := beside.otherNames
  otherNames := beside.names

theorem SideBySide.not_within (beside : SideBySide tree base root name other paths others spot)
    (within : Path.ofText name :: spot <:+ location) :
    ¬ Path.ofText other :: spot <:+ location := by
  intro otherWithin
  have same := List.suffix_of_suffix_length_le within otherWithin (by simp)
  have equal := same.eq_of_length (by simp)
  exact beside.differ (Path.ofText_injective (List.cons.inj equal).1)

/-- An attempt for one name changes nothing that is not in the directory for it. -/
theorem SideBySide.get?_writeAs (beside : SideBySide tree base root name other paths others spot)
    (artifacts : Artifacts) (isNew : Bool) (outside : ¬ Path.ofText name :: spot <:+ location) :
    (writeAs tree base paths artifacts isNew).files.get? location = tree.get? location := by
  by_contra differs
  exact outside (changesOnly_writeAs beside.accepted beside.names artifacts isNew location differs)

/-- How an attempt for a name goes on after one for another name, which has left a tree: it finds or
makes a next tree in which its directory has its place.  The next tree can only differ from what was
left where the directory of the first attempt had its place. -/
structure Resumes (tree left : FileTree) (base : Base) (others : OutputPaths)
    (otherArtifacts : Artifacts) (place otherPlace : Location) (next : FileTree) : Prop where
  same : ∀ isNew, writeAs left (base.settle left) others otherArtifacts isNew =
    writeAs next (base.settle left) others otherArtifacts isNew
  names : next.NamesEntry (base.settle left) others.directory otherPlace
  adds : AddsDirectories left next
  elsewhere : ∀ location, location ≠ place → next.get? location = left.get? location
  unique : ∀ location,
    left.NamesEntry (base.settle left) others.directory location → location = otherPlace
  ofKept : KeepsDirectories tree left →
    next = left ∧ left.NamesEntry (base.settle left) others.directory otherPlace
  ofLost : ¬ KeepsDirectories tree left → (next.get? place = none ↔
    ∃ location, left.NamesEntry (base.settle left) others.directory location)

theorem SideBySide.resumes_of_keeps
    (beside : SideBySide tree base root name other paths others spot)
    (keeps : KeepsDirectories tree left) (otherArtifacts : Artifacts) :
    Resumes tree left base others otherArtifacts (Path.ofText name :: spot)
      (Path.ofText other :: spot) left := by
  have sameBase := settle_of_keepsDirectories keeps beside.settled
  have otherNames := beside.otherNames.of_keepsDirectories keeps
  rw [← sameBase] at otherNames
  exact
    { same := fun _ => rfl
      names := otherNames
      adds := fun _ => .inl rfl
      elsewhere := fun _ _ => rfl
      unique := fun _ leads => leads.unique otherNames
      ofKept := fun _ => ⟨rfl, otherNames⟩
      ofLost := fun lost => absurd keeps lost }

/-- Where a directory on the way is lost, the next tree has it again if and only if the way leads
through it. -/
theorem SideBySide.exists_resumes_of_loses {kept : FileTree}
    (beside : SideBySide tree base root name other paths others spot)
    (keeps : KeepsDirectories tree kept)
    (loses : LosesEmpty (Path.ofText name :: spot) kept left)
    (lost : ¬ KeepsDirectories tree left) (otherArtifacts : Artifacts) :
    ∃ next, Resumes tree left base others otherArtifacts (Path.ofText name :: spot)
      (Path.ofText other :: spot) next := by
  have otherEnds := directoryEnds_of_under beside.otherAccepted
  have way :=
    isWay_of_under beside.otherAccepted
      (usable_of_namesEntry beside.otherAccepted beside.otherNames) (base.settle left)
  have settledKept := settle_of_keepsDirectories keeps beside.settled
  have settledLeft := settle_settle base left
  have keptNames :
      kept.NamesEntry (base.settle left) others.directory (Path.ofText other :: spot) :=
    (beside.otherNames.of_keepsDirectories keeps).of_losesEmpty loses settledKept otherEnds
      (List.cons_ne_self _ _).symm
  obtain ⟨within, nextNames⟩ :
      AddsDirectories (wayTo left (base.settle left) others) kept ∧
        (wayTo left (base.settle left) others).NamesEntry (base.settle left) others.directory
          (Path.ofText other :: spot) :=
    namesEntry_makeWithParents way loses.addsDirectories settledLeft otherEnds keptNames
  have adds := addsDirectories_wayTo left (base.settle left) others
  have leftLost : left.get? (Path.ofText name :: spot) = none := by
    rw [loses.get?_eq, if_pos rfl]
  -- The next tree lies between what is left and what was there before the loss.
  have elsewhere (location : Location) (different : location ≠ Path.ofText name :: spot) :
      (wayTo left (base.settle left) others).get? location = left.get? location := by
    have keptSame : left.get? location = kept.get? location := by
      rw [loses.get?_eq, if_neg different]
    rcases adds location with same | ⟨absent, made⟩
    · exact same
    · rcases within location with same | ⟨absentToo, -⟩
      · rw [keptSame, same]
      · exact absurd (made.symm.trans absentToo) (by simp)
  refine ⟨wayTo left (base.settle left) others,
    { same := writeAs_wayTo beside.otherAccepted settledLeft nextNames otherArtifacts
      names := nextNames
      adds := adds
      elsewhere := elsewhere
      unique := fun location leads =>
        (leads.of_keepsDirectories loses.addsDirectories.keepsDirectories).unique keptNames
      ofKept := fun keepsAll => absurd keepsAll lost
      ofLost := fun _ => ⟨fun vacant => ?_, ?_⟩ }⟩
  · have unchanged : wayTo left (base.settle left) others = left := by
      apply ext_get?
      intro location
      by_cases atPlace : location = Path.ofText name :: spot
      · rw [atPlace, vacant, leftLost]
      · exact elsewhere location atPlace
    exact ⟨_, unchanged ▸ nextNames⟩
  · rintro ⟨location, leads⟩
    obtain ⟨target, aimed⟩ := leads.exists_target
    rw [wayTo, makeWithParents_parents_of_target way aimed, leftLost]

theorem SideBySide.exists_resumes {report : WriteReport}
    (beside : SideBySide tree base root name other paths others spot)
    (wrote : writeAs tree base paths artifacts isNew = report) (otherArtifacts : Artifacts) :
    ∃ next, Resumes tree report.files base others otherArtifacts (Path.ofText name :: spot)
      (Path.ofText other :: spot) next := by
  subst wrote
  by_cases keeps : KeepsDirectories tree (writeAs tree base paths artifacts isNew).files
  · exact ⟨_, beside.resumes_of_keeps keeps otherArtifacts⟩
  · obtain ⟨rfl, -, -, loses⟩ :=
      losesEmpty_of_not_keeps beside.accepted beside.names artifacts keeps
    exact beside.exists_resumes_of_loses
      (keepsDirectories_writeAs beside.accepted beside.names artifacts) loses keeps otherArtifacts

/-! ## The second attempt -/

/-- An attempt that is made when another one is over. -/
def writeAfter (report : WriteReport) (base : Base) (paths : OutputPaths) (artifacts : Artifacts) :
    WriteReport :=
  paths.write report.files (base.settle report.files) artifacts

/-- When an attempt for another name is over, the path of the directory leads to a place. -/
def LeadsAfter (report : WriteReport) (base : Base) (paths : OutputPaths) : Prop :=
  ∃ location, report.files.NamesEntry (base.settle report.files) paths.directory location

section Second

variable {next : FileTree} {report : WriteReport}
variable (beside : SideBySide tree base root name other paths others spot)
variable (wrote : writeAs tree base paths artifacts isNew = report)
variable (resumes : Resumes tree report.files base others otherArtifacts
  (Path.ofText name :: spot) (Path.ofText other :: spot) next)

include beside wrote resumes

theorem get?_next (outside : ¬ Path.ofText name :: spot <:+ location) :
    next.get? location = tree.get? location := by
  rw [resumes.elsewhere location (fun same => outside (same ▸ List.suffix_rfl)), ← wrote,
    beside.get?_writeAs artifacts isNew outside]

theorem sameIn_second (otherIsNew : Bool) :
    (writeAs next (base.settle report.files) others otherArtifacts otherIsNew).outcome.isOk =
        (writeAs tree base others otherArtifacts otherIsNew).outcome.isOk ∧
      SameIn (Path.ofText other :: spot)
        (writeAs next (base.settle report.files) others otherArtifacts otherIsNew).files
        (writeAs tree base others otherArtifacts otherIsNew).files := by
  refine sameIn_writeAs beside.otherAccepted resumes.names beside.otherNames ?_ otherArtifacts
    otherIsNew
  intro location within
  exact get?_next beside wrote resumes (beside.symm.not_within within)

theorem outcome_writeAfter_eq :
    (writeAfter report base others otherArtifacts).outcome.isOk =
      (writeAs tree base others otherArtifacts otherIsNew).outcome.isOk := by
  rw [writeAfter, write_eq_writeAs, resumes.same, (sameIn_second beside wrote resumes _).1]
  exact outcome_writeAs beside.otherAccepted beside.otherNames otherArtifacts _ _

theorem get?_writeAfter_of_within (within : Path.ofText other :: spot <:+ location) :
    (writeAfter report base others otherArtifacts).files.get? location =
      (writeAs tree base others otherArtifacts
        (!report.files.exists? (base.settle report.files) others.directory)).files.get?
        location := by
  rw [writeAfter, write_eq_writeAs, resumes.same]
  exact (sameIn_second beside wrote resumes _).2 location within

omit wrote in
theorem get?_writeAfter_of_outside (outside : ¬ Path.ofText other :: spot <:+ location) :
    (writeAfter report base others otherArtifacts).files.get? location =
      next.get? location := by
  rw [writeAfter, write_eq_writeAs, resumes.same]
  by_contra differs
  exact outside <|
    changesOnly_writeAs beside.otherAccepted resumes.names otherArtifacts _ location differs

/-- The directory of the second attempt does not count as new if its path still leads somewhere and
something has stood there from the start. -/
theorem exists_other_iff :
    report.files.exists? (base.settle report.files) others.directory = true ↔
      (Path.ofText other).length ≤ nameLimit ∧ tree.get? (Path.ofText other :: spot) ≠ none ∧
        LeadsAfter report base others := by
  have kept :
      report.files.get? (Path.ofText other :: spot) = tree.get? (Path.ofText other :: spot) := by
    rw [← wrote]
    exact beside.get?_writeAs artifacts isNew (beside.symm.not_within List.suffix_rfl)
  rw [exists_iff_namesEntry (directoryEnds_of_under beside.otherAccepted)]
  refine and_congr_right fun _ => ?_
  constructor
  · rintro ⟨location, leads, present⟩
    rw [resumes.unique location leads, kept] at present
    exact ⟨present, location, leads⟩
  · rintro ⟨present, location, leads⟩
    refine ⟨location, leads, ?_⟩
    rw [resumes.unique location leads, kept]
    exact present

end Second

end RunManifest.OutputPaths
