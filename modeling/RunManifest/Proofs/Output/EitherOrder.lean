import RunManifest.Proofs.Output.Interchange

/-!
# Writing for two names in either order

Writing for two names under one root ends alike in both orders, whether the writes succeed or fail,
and neither changes the files of the other.  What is left is the same as well, unless a write that
fails takes away a directory that it has not made (`Clash`).
-/

namespace RunManifest.OutputPaths

open FileTree

variable {files : FileTree} {base : Base} {root : Path} {name other : Text}
variable {paths others : OutputPaths} {artifacts otherArtifacts : Artifacts}
variable {spot location : Location}

/-- A write takes away a directory that stands once the directories on the way are made, before the
last one is. -/
structure TakesAway (files : FileTree) (base : Base) (paths : OutputPaths) (artifacts : Artifacts)
    (location : Location) : Prop where
  onTheWay : (wayTo files base paths).get? location = some .directory
  prepared : (files.makeDirectories base paths.directory).1.get? location = some .directory
  gone : (paths.write files base artifacts).files.get? location ≠ some .directory

/-- What two writes leave shows their order: one of them takes away a directory that it has not
made, and the path for the other leads somewhere after each of them, or after neither. -/
structure Clash (files : FileTree) (base : Base) (paths others : OutputPaths)
    (artifacts otherArtifacts : Artifacts) : Prop where
  usable : IsUsable paths.directory
  otherUsable : IsUsable others.directory
  takes : ∃ location, TakesAway files base paths artifacts location ∨
    TakesAway files base others otherArtifacts location
  alike : LeadsAfter (paths.write files base artifacts) base others ↔
    LeadsAfter (others.write files base otherArtifacts) base paths

/-- A location is that of the directory for the files or below it, wherever the path of the
directory can lead when directories are made. -/
def IsBelow (files : FileTree) (base : Base) (paths : OutputPaths) (location : Location) : Prop :=
  ∃ later place, AddsDirectories files later ∧ later.NamesEntry base paths.directory place ∧
    place <:+ location

/-- The files below the directory are those that have been there. -/
def SparesFiles (files later : FileTree) (base : Base) (paths : OutputPaths) : Prop :=
  ∀ location content, IsBelow files base paths location →
    (later.get? location = some (.file content) ↔ files.get? location = some (.file content))

theorem sideBySide_wayTo (accepted : under root name = .ok paths)
    (otherAccepted : under root other = .ok others) (differ : name ≠ other)
    (settled : base.settle files = base) (otherUsable : IsUsable others.directory)
    (names :
      (wayTo files base paths).NamesEntry base paths.directory (Path.ofText name :: spot)) :
    SideBySide (wayTo files base paths) base root name other paths others spot where
  accepted := accepted
  otherAccepted := otherAccepted
  differ := differ
  settled := settle_of_keepsDirectories (keepsDirectories_makeWithParents files base _) settled
  names := names
  otherNames := namesEntry_other accepted otherAccepted otherUsable names

theorem wayTo_of_exists (accepted : under root name = .ok paths)
    (found : files.exists? base paths.directory = true) : wayTo files base paths = files := by
  obtain ⟨-, location, names, -⟩ :=
    (exists_iff_namesEntry (directoryEnds_of_under accepted)).mp found
  have way := isWay_of_under accepted (usable_of_namesEntry accepted names) base
  obtain ⟨target, aimed⟩ := names.exists_target
  exact makeWithParents_parents_of_target way aimed

/-- If something stands where the path of a directory leads, it does not count as new, and neither
does that for another name if something stands there. -/
theorem SideBySide.ofOld
    (beside : SideBySide (wayTo files base paths) base root name other paths others spot)
    (old : (!files.exists? base paths.directory) = false) :
    (wayTo files base paths).get? (Path.ofText name :: spot) ≠ none ∧
      ((Path.ofText other).length ≤ nameLimit →
        (wayTo files base paths).get? (Path.ofText other :: spot) ≠ none →
          (!files.exists? base others.directory) = false) := by
  rw [Bool.not_eq_false'] at old
  have names := beside.names
  have otherNames := beside.otherNames
  rw [wayTo_of_exists beside.accepted old] at names otherNames ⊢
  obtain ⟨-, location, leads, present⟩ :=
    (exists_iff_namesEntry (directoryEnds_of_under beside.accepted)).mp old
  rw [leads.unique names] at present
  refine ⟨present, fun otherShort otherPresent => ?_⟩
  rw [Bool.not_eq_false']
  exact (exists_iff_namesEntry (directoryEnds_of_under beside.otherAccepted)).mpr
    ⟨otherShort, _, otherNames, otherPresent⟩

/-- A write takes a directory away if it does not keep all those on the way. -/
theorem exists_takesAway_iff (accepted : under root name = .ok paths)
    (settled : base.settle files = base)
    (names : (wayTo files base paths).NamesEntry base paths.directory location)
    (artifacts : Artifacts) :
    (∃ gone, TakesAway files base paths artifacts gone) ↔
      ¬ KeepsDirectories (wayTo files base paths) (paths.write files base artifacts).files := by
  have way := isWay_of_under accepted (usable_of_namesEntry accepted names) base
  obtain ⟨slot, aimed, -⟩ := names
  have keeps :
      KeepsDirectories (wayTo files base paths)
        (files.makeDirectories base paths.directory).1 := by
    rw [makeDirectories, makeWithParents_of_prepared way settled rfl aimed]
    exact keepsDirectories_makeWithParents _ base _
  constructor
  · rintro ⟨gone, takes⟩ keepsAll
    exact takes.gone (keepsAll gone takes.onTheWay)
  · intro lost
    simp only [KeepsDirectories, not_forall] at lost
    obtain ⟨gone, stood, notThere⟩ := lost
    exact ⟨gone, stood, keeps gone stood, notThere⟩

/-- The write for the one name is an attempt that starts once the way has been made. -/
theorem SideBySide.wrote
    (beside : SideBySide (wayTo files base paths) base root name other paths others spot)
    (settled : base.settle files = base) (artifacts : Artifacts) :
    writeAs (wayTo files base paths) base paths artifacts (!files.exists? base paths.directory) =
      paths.write files base artifacts :=
  (writeAs_wayTo beside.accepted settled beside.names artifacts _).symm

theorem SideBySide.otherWrote
    (beside : SideBySide (wayTo files base paths) base root name other paths others spot)
    (settled : base.settle files = base) (otherArtifacts : Artifacts) :
    writeAs (wayTo files base paths) base others otherArtifacts
        (!files.exists? base others.directory) =
      others.write files base otherArtifacts := by
  have sameWay := wayTo_eq beside.accepted beside.otherAccepted files base
  rw [sameWay] at beside ⊢
  exact beside.symm.wrote settled otherArtifacts

theorem BothRefused.symm {left : FileTree} (refused : BothRefused files left base paths others) :
    BothRefused files left base others paths where
  first := refused.otherFirst
  otherFirst := refused.first
  second := refused.otherSecond
  otherSecond := refused.second

theorem BothRefused.writeAfter {left : FileTree}
    (refused : BothRefused files left base paths others) (settled : base.settle files = base)
    (artifacts otherArtifacts : Artifacts) :
    (writeAfter (paths.write files base artifacts) base others otherArtifacts).files = left ∧
      (writeAfter (paths.write files base artifacts) base others
        otherArtifacts).outcome.isOk = false := by
  obtain ⟨cause, whole⟩ := refused.first
  obtain ⟨otherCause, otherWhole⟩ := refused.otherSecond
  have keeps : KeepsDirectories files left := by
    have adds := addsDirectories_makeDirectories files base paths.directory
    rw [whole] at adds
    exact adds.keepsDirectories
  rw [OutputPaths.writeAfter, (write_of_refused whole artifacts).1,
    settle_of_keepsDirectories keeps settled]
  exact write_of_refused otherWhole otherArtifacts

theorem not_takesAway_of_refused {left : FileTree} {cause : SystemError}
    (whole : files.makeDirectories base paths.directory = (left, .error cause))
    (artifacts : Artifacts) (location : Location) :
    ¬ TakesAway files base paths artifacts location := by
  intro takes
  have prepared := takes.prepared
  have gone := takes.gone
  rw [(write_of_refused whole artifacts).1] at gone
  rw [whole] at prepared
  exact gone prepared

/-! ## Both orders -/

section Both

variable (accepted : under root name = .ok paths) (otherAccepted : under root other = .ok others)
variable (differ : name ≠ other) (settled : base.settle files = base)

include accepted settled

/-- After a write that does nothing, the other one goes as it would have gone before. -/
theorem writeAfter_of_not_usable (notUsable : ¬ IsUsable paths.directory) (others : OutputPaths)
    (artifacts otherArtifacts : Artifacts) :
    writeAfter (paths.write files base artifacts) base others otherArtifacts =
      others.write files base otherArtifacts := by
  rw [writeAfter, (write_of_not_usable accepted notUsable files base artifacts).1, settled]

include otherAccepted differ

/-- A write ends as it would have ended without the other one before it. -/
theorem outcome_writeAfter (artifacts otherArtifacts : Artifacts) :
    (writeAfter (paths.write files base artifacts) base others otherArtifacts).outcome.isOk =
      (others.write files base otherArtifacts).outcome.isOk := by
  by_cases usable : IsUsable paths.directory
  · by_cases otherUsable : IsUsable others.directory
    · by_cases place :
          ∃ location, (wayTo files base paths).NamesEntry base paths.directory location
      · obtain ⟨location, names⟩ := place
        obtain ⟨spot, rfl⟩ := exists_spot accepted names
        have beside := sideBySide_wayTo accepted otherAccepted differ settled otherUsable names
        have wrote := beside.wrote settled artifacts
        obtain ⟨next, resumes⟩ := beside.exists_resumes wrote otherArtifacts
        rw [outcome_writeAfter_eq beside wrote resumes, beside.otherWrote settled]
      · obtain ⟨left, refused⟩ :=
          exists_bothRefused accepted otherAccepted usable otherUsable settled
            (not_exists.mp place)
        obtain ⟨otherCause, otherWhole⟩ := refused.otherFirst
        rw [(refused.writeAfter settled artifacts otherArtifacts).2,
          (write_of_refused otherWhole otherArtifacts).2]
    · rw [writeAfter, (write_of_not_usable otherAccepted otherUsable _ _ _).2,
        (write_of_not_usable otherAccepted otherUsable _ _ _).2]
  · rw [writeAfter_of_not_usable accepted settled usable]

theorem files_writeAfter_eq_iff_not_clash (artifacts otherArtifacts : Artifacts) :
    (writeAfter (paths.write files base artifacts) base others otherArtifacts).files =
        (writeAfter (others.write files base otherArtifacts) base paths artifacts).files ↔
      ¬ Clash files base paths others artifacts otherArtifacts := by
  by_cases usable : IsUsable paths.directory
  · by_cases otherUsable : IsUsable others.directory
    · by_cases place :
          ∃ location, (wayTo files base paths).NamesEntry base paths.directory location
      · obtain ⟨location, names⟩ := place
        obtain ⟨spot, rfl⟩ := exists_spot accepted names
        have beside := sideBySide_wayTo accepted otherAccepted differ settled otherUsable names
        have sameWay := wayTo_eq accepted otherAccepted files base
        have otherBeside :
            SideBySide (wayTo files base others) base root other name others paths spot :=
          sameWay ▸ beside.symm
        have takes := exists_takesAway_iff accepted settled names artifacts
        have otherTakes :=
          exists_takesAway_iff otherAccepted settled otherBeside.names otherArtifacts
        have otherOld := otherBeside.ofOld
        rw [← sameWay] at otherTakes otherOld
        rw [files_writeAfter_eq_iff beside (beside.wrote settled artifacts)
          (beside.otherWrote settled otherArtifacts) beside.ofOld otherOld, not_iff_not,
          ← takes, ← otherTakes, ← exists_or]
        exact ⟨fun ⟨takes, alike⟩ => ⟨usable, otherUsable, takes, alike⟩,
          fun clash => ⟨clash.takes, clash.alike⟩⟩
      · obtain ⟨left, refused⟩ :=
          exists_bothRefused accepted otherAccepted usable otherUsable settled
            (not_exists.mp place)
        rw [(refused.writeAfter settled artifacts otherArtifacts).1,
          (refused.symm.writeAfter settled otherArtifacts artifacts).1]
        simp only [true_iff]
        intro clash
        obtain ⟨location, takes | takes⟩ := clash.takes
        · obtain ⟨cause, whole⟩ := refused.first
          exact not_takesAway_of_refused whole artifacts location takes
        · obtain ⟨cause, whole⟩ := refused.otherFirst
          exact not_takesAway_of_refused whole otherArtifacts location takes
    · rw [writeAfter_of_not_usable otherAccepted settled otherUsable, writeAfter,
        (write_of_not_usable otherAccepted otherUsable _ _ _).1]
      simp only [true_iff]
      exact fun clash => otherUsable clash.otherUsable
  · rw [writeAfter_of_not_usable accepted settled usable, writeAfter,
      (write_of_not_usable accepted usable _ _ _).1]
    simp only [true_iff]
    exact fun clash => usable clash.usable

/-- A write changes no file below the directory for another name. -/
theorem sparesFiles_write (artifacts : Artifacts) :
    SparesFiles files (paths.write files base artifacts).files base others := by
  rintro location content ⟨later, place, adds, names, within⟩
  by_cases usable : IsUsable paths.directory
  · have otherUsable := usable_of_namesEntry otherAccepted names
    have otherWay := isWay_of_under otherAccepted otherUsable base
    have wayNames :=
      (namesEntry_makeWithParents otherWay adds settled (directoryEnds_of_under otherAccepted)
        names).2
    obtain ⟨spot, rfl⟩ := exists_spot otherAccepted wayNames
    change (wayTo files base others).NamesEntry _ _ _ at wayNames
    have otherBeside :=
      sideBySide_wayTo otherAccepted accepted differ.symm settled usable wayNames
    rw [← otherBeside.otherWrote settled artifacts,
      otherBeside.symm.get?_writeAs artifacts _ (otherBeside.not_within within)]
    have addsWay := addsDirectories_wayTo files base others
    constructor
    · intro stands
      rcases addsWay location with same | ⟨-, made⟩
      · rw [← same, stands]
      · rw [made] at stands
        cases stands
    · exact addsWay.get?_eq
  · rw [(write_of_not_usable accepted usable files base artifacts).1]

end Both

/-- Two writes under one root end alike in either order and spare each other's files.  They leave
the same in either order if and only if they do not clash.  What has been removed of the directory in
which relative paths start is told by the base (`settled`), and a write that fails is one that the
system refuses before it has changed the file. -/
theorem write_in_either_order (accepted : under root name = .ok paths)
    (otherAccepted : under root other = .ok others) (differ : name ≠ other)
    (settled : base.settle files = base) (artifacts otherArtifacts : Artifacts) :
    (writeAfter (paths.write files base artifacts) base others otherArtifacts).outcome.isOk =
        (others.write files base otherArtifacts).outcome.isOk ∧
      (writeAfter (others.write files base otherArtifacts) base paths artifacts).outcome.isOk =
        (paths.write files base artifacts).outcome.isOk ∧
      ((writeAfter (paths.write files base artifacts) base others otherArtifacts).files =
          (writeAfter (others.write files base otherArtifacts) base paths artifacts).files ↔
        ¬ Clash files base paths others artifacts otherArtifacts) ∧
      SparesFiles files (paths.write files base artifacts).files base others ∧
      SparesFiles files (others.write files base otherArtifacts).files base paths ∧
      SparesFiles (paths.write files base artifacts).files
        (writeAfter (paths.write files base artifacts) base others otherArtifacts).files
        (base.settle (paths.write files base artifacts).files) paths ∧
      SparesFiles (others.write files base otherArtifacts).files
        (writeAfter (others.write files base otherArtifacts) base paths artifacts).files
        (base.settle (others.write files base otherArtifacts).files) others :=
  ⟨outcome_writeAfter accepted otherAccepted differ settled artifacts otherArtifacts,
    outcome_writeAfter otherAccepted accepted differ.symm settled otherArtifacts artifacts,
    files_writeAfter_eq_iff_not_clash accepted otherAccepted differ settled artifacts
      otherArtifacts,
    sparesFiles_write accepted otherAccepted differ settled artifacts,
    sparesFiles_write otherAccepted accepted differ.symm settled otherArtifacts,
    sparesFiles_write otherAccepted accepted differ.symm (settle_settle _ _) otherArtifacts,
    sparesFiles_write accepted otherAccepted differ (settle_settle _ _) artifacts⟩

theorem not_takesAway_of_namesEntry (accepted : under root name = .ok paths)
    (settled : base.settle files = base)
    (names : files.NamesEntry base paths.directory location) (artifacts : Artifacts)
    (gone : Location) : ¬ TakesAway files base paths artifacts gone := by
  intro takes
  have way := isWay_of_under accepted (usable_of_namesEntry accepted names) base
  obtain ⟨target, aimed⟩ := names.exists_target
  have whole : wayTo files base paths = files := makeWithParents_parents_of_target way aimed
  have lost :=
    (exists_takesAway_iff accepted settled (whole.symm ▸ names) artifacts).mp ⟨gone, takes⟩
  rw [whole, write_eq_writeAs] at lost
  obtain ⟨isNew, short, stood, -⟩ := losesEmpty_of_not_keeps accepted names artifacts lost
  rw [Bool.not_eq_true', Bool.eq_false_iff] at isNew
  exact isNew <| (exists_iff_namesEntry (directoryEnds_of_under accepted)).mpr
    ⟨short, location, names, by simp [stood]⟩

/-- If the root is there, so that the paths of the directories lead to places from the start, no two
writes clash. -/
theorem not_clash_of_namesEntry (accepted : under root name = .ok paths)
    (otherAccepted : under root other = .ok others) (settled : base.settle files = base)
    (names : files.NamesEntry base paths.directory location)
    (artifacts otherArtifacts : Artifacts) :
    ¬ Clash files base paths others artifacts otherArtifacts := by
  intro clash
  obtain ⟨spot, rfl⟩ := exists_spot accepted names
  have otherNames := namesEntry_other accepted otherAccepted clash.otherUsable names
  obtain ⟨gone, takes | takes⟩ := clash.takes
  · exact not_takesAway_of_namesEntry accepted settled names artifacts gone takes
  · exact not_takesAway_of_namesEntry otherAccepted settled otherNames otherArtifacts gone takes

/-- The paths under `/out` for the name `web`. -/
def freePaths : OutputPaths where
  directory := Path.ofText "/out/web".toList
  manifest := Path.ofText "/out/web/service.yml".toList
  pipeline := Path.ofText "/out/web/skaffold.yml".toList

/-- Beside a write that fails, another one succeeds before or after it, and leaves the same. -/
theorem write_in_either_order_blocked :
    under (Path.ofText "/out".toList) "api".toList = .ok blockedPaths ∧
      under (Path.ofText "/out".toList) "web".toList = .ok freePaths ∧
      "api".toList ≠ "web".toList ∧ Place.root.settle blockedFiles = .root ∧
      (writeAfter (blockedPaths.write blockedFiles .root nextArtifacts) .root freePaths
        nextArtifacts).outcome.isOk = true ∧
      (writeAfter (freePaths.write blockedFiles .root nextArtifacts) .root blockedPaths
        nextArtifacts).outcome.isOk = false ∧
      (writeAfter (blockedPaths.write blockedFiles .root nextArtifacts) .root freePaths
          nextArtifacts).files =
        (writeAfter (freePaths.write blockedFiles .root nextArtifacts) .root blockedPaths
          nextArtifacts).files ∧
      SparesFiles blockedFiles (freePaths.write blockedFiles .root nextArtifacts).files .root
        blockedPaths := by
  have accepted : under (Path.ofText "/out".toList) "api".toList = .ok blockedPaths := rfl
  have otherAccepted : under (Path.ofText "/out".toList) "web".toList = .ok freePaths := rfl
  have differ : "api".toList ≠ "web".toList := by decide
  have settled : Place.root.settle blockedFiles = .root := rfl
  have found : blockedFiles.exists? .root blockedPaths.directory = true := by decide +kernel
  obtain ⟨-, location, names, -⟩ :=
    (exists_iff_namesEntry (directoryEnds_of_under accepted)).mp found
  obtain ⟨outcome, otherOutcome, same_iff, -, spares, -⟩ :=
    write_in_either_order accepted otherAccepted differ settled nextArtifacts nextArtifacts
  refine ⟨accepted, otherAccepted, differ, settled, outcome.trans ?_, otherOutcome.trans ?_,
    same_iff.mpr ?_, spares⟩
  · rfl
  · rfl
  · exact not_clash_of_namesEntry accepted otherAccepted settled names nextArtifacts nextArtifacts

/-- A root that leads through a directory and back, so long that the paths of files under it are
refused. -/
def longRoot : Path :=
  Path.ofText "envs/new/..".toList ++ List.replicate 4069 Path.slash

def longPaths (name : Text) : OutputPaths where
  directory := Path.join longRoot (Path.ofText name)
  manifest := Path.join (Path.join longRoot (Path.ofText name)) (Path.ofText manifestFile)
  pipeline := Path.join (Path.join longRoot (Path.ofText name)) (Path.ofText pipelineFile)

/-- A directory for the name `api` is there, but not the one through which the root leads. -/
def waitingFiles : FileTree :=
  (FileTree.empty.makeDirectories .root (Path.ofText "/one/envs/api".toList)).1

def waitingBase : Base where
  location := [Path.ofText "one".toList]
  removed := 0

set_option maxRecDepth 20000 in
/-- The write for `api` fails and takes the directory away that has been there, but not if the write
for another name has made the way to it before. -/
theorem directory_kept_in_one_order :
    under longRoot "api".toList = .ok (longPaths "api".toList) ∧
      under longRoot "w".toList = .ok (longPaths "w".toList) ∧
      "api".toList ≠ "w".toList ∧ waitingBase.settle waitingFiles = waitingBase ∧
      (writeAfter ((longPaths "api".toList).write waitingFiles waitingBase nextArtifacts)
          waitingBase (longPaths "w".toList) nextArtifacts).files ≠
        (writeAfter ((longPaths "w".toList).write waitingFiles waitingBase nextArtifacts)
          waitingBase (longPaths "api".toList) nextArtifacts).files := by
  refine ⟨rfl, rfl, by decide, rfl, ?_⟩
  intro same
  have gone :
      (writeAfter ((longPaths "api".toList).write waitingFiles waitingBase nextArtifacts)
        waitingBase (longPaths "w".toList) nextArtifacts).files.get?
          [Path.ofText "api".toList, Path.ofText "envs".toList, Path.ofText "one".toList] =
        none := by
    decide +kernel
  have stays :
      (writeAfter ((longPaths "w".toList).write waitingFiles waitingBase nextArtifacts)
        waitingBase (longPaths "api".toList) nextArtifacts).files.get?
          [Path.ofText "api".toList, Path.ofText "envs".toList, Path.ofText "one".toList] =
        some .directory := by
    decide +kernel
  rw [same, stays] at gone
  cases gone

end RunManifest.OutputPaths
