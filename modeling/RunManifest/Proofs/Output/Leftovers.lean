import RunManifest.Proofs.Files.Existing
import RunManifest.Proofs.Output.FailingWrite

/-!
# What a failed attempt to write leaves behind

A failed attempt removes the manifest that it has written, and of the directories that it has made
only the one that the files were to be written to.  A directory that it had to make on the way
there stays, and so does everything that was made before the making of directories itself failed.
-/

namespace RunManifest.OutputPaths

open FileTree

variable {files prepared cleaned : FileTree} {base : Base} {paths : OutputPaths}
variable {artifacts : Artifacts} {failure : WriteFailure}

/-- Whatever stands in the later tree, something stood in its place before. -/
def AddsNothing (files later : FileTree) : Prop :=
  ∀ location, later.get? location ≠ none → files.get? location ≠ none

/-- At a location where nothing stood, a directory is made on the way to the one for the files. -/
structure IsMade (files : FileTree) (base : Base) (paths : OutputPaths) (location : Location) :
    Prop where
  vacant : files.get? location = none
  made : (files.makeDirectories base paths.directory).1.get? location = some .directory

theorem isMade_of_get?
    {location : Location} (vacant : files.get? location = none)
    (present : (files.makeDirectories base paths.directory).1.get? location ≠ none) :
    IsMade files base paths location := by
  rcases addsDirectories_makeDirectories files base paths.directory location with same | added
  · rw [same] at present
    exact absurd vacant present
  · exact ⟨vacant, added.2⟩

/-- A later tree is what a tree is without some of its files. -/
def LosesFiles (tree later : FileTree) : Prop :=
  ∀ location, later.get? location = tree.get? location ∨
    tree.get? location ≠ some .directory ∧ later.get? location = none

theorem LosesFiles.get?_ne_none
    (loses : LosesFiles prepared cleaned) {location : Location}
    (present : cleaned.get? location ≠ none) :
    prepared.get? location ≠ none := by
  rcases loses location with same | ⟨_, absent⟩
  · rw [← same]
    exact present
  · exact absurd absent present

theorem LosesFiles.get?_eq_directory_iff
    (loses : LosesFiles prepared cleaned) (location : Location) :
    cleaned.get? location = some .directory ↔ prepared.get? location = some .directory := by
  rcases loses location with same | ⟨noDirectory, absent⟩
  · rw [same]
  · rw [absent]
    simp [noDirectory]

theorem losesFiles_discardManifest (files : FileTree) (base : Base) (paths : OutputPaths) :
    LosesFiles files (discardManifest files base paths).1 := by
  intro location
  unfold discardManifest
  split
  · split
    · rename_i removed
      obtain ⟨slot, -, -, -, ⟨content, stands⟩, rfl⟩ := removeFile_eq_ok_iff.mp removed
      have view := get?_removeAll_of_vacant (get?_below_file stands) location
      by_cases same : location = slot.location
      · right
        constructor
        · rw [same, stands]
          simp
        · rw [view, if_pos same]
      · left
        rw [view, if_neg same]
    · exact .inl rfl
  · exact .inl rfl

theorem DropsManifest.losesFiles (drops : DropsManifest prepared base paths cleaned) :
    LosesFiles prepared cleaned := by
  intro location
  rw [drops]
  split
  · rename_i dropped
    exact .inr ⟨dropped.2, rfl⟩
  · exact .inl rfl

/-- If a directory was to be removed and there is no warning, the one to which the path leads is
gone. -/
theorem get?_discardDirectory_of_quiet
    (quiet : (discardDirectory files base paths true).2 = []) :
    ∃ removed : Location,
      files.locate base paths.directory = .ok { location := removed } ∧
      files.get? removed = some .directory ∧
      ∀ location, (discardDirectory files base paths true).1.get? location =
        if location = removed then none else files.get? location := by
  unfold discardDirectory at quiet ⊢
  rw [if_pos rfl] at quiet ⊢
  split at quiet
  · rename_i removal
    obtain ⟨slot, aimed, short, stands, vacant, rfl⟩ := removeDirectory_eq_ok_iff.mp removal
    exact ⟨slot.location, locate_of_target aimed short stands, stands,
      get?_removeAll_of_vacant (isVacant_iff.mp vacant)⟩
  · cases quiet

/-- After cleaning up, nothing new is left if nothing but the directory for the files was made. -/
theorem addsNothing_discardDirectory_iff
    (made : files.makeDirectories base paths.directory = (prepared, .ok ()))
    (loses : LosesFiles prepared cleaned)
    (quiet :
      (discardDirectory cleaned base paths (!files.exists? base paths.directory)).2 = []) :
    AddsNothing files
        (discardDirectory cleaned base paths (!files.exists? base paths.directory)).1 ↔
      ∀ location, IsMade files base paths location →
        prepared.locate base paths.directory = .ok { location } := by
  have preparedEq : (files.makeDirectories base paths.directory).1 = prepared := by
    rw [made]
  cases present : files.exists? base paths.directory with
  | true =>
      -- The directory was there, so that none was made and none is removed.
      have unchanged : prepared = files := by
        rw [← preparedEq, makeDirectories_of_exists present]
      subst unchanged
      constructor
      · intro _ location isMade
        have directory := isMade.made
        rw [preparedEq, isMade.vacant] at directory
        cases directory
      · intro _ location stands
        exact loses.get?_ne_none stands
  | false =>
      rw [present] at quiet
      obtain ⟨removed, found, directory, view⟩ := get?_discardDirectory_of_quiet quiet
      have keeps : KeepsDirectories cleaned prepared := by
        intro location stands
        exact (loses.get?_eq_directory_iff location).mp stands
      have foundBefore : prepared.locate base paths.directory = .ok { location := removed } :=
        locate_of_keepsDirectories keeps found ((entryAt?_of_not_removed rfl).trans directory)
      constructor
      · intro addsNothing location isMade
        have stands : cleaned.get? location = some .directory := by
          rw [loses.get?_eq_directory_iff, ← preparedEq]
          exact isMade.made
        by_cases same : location = removed
        · rw [same]
          exact foundBefore
        · have left := addsNothing location
          rw [Bool.not_false, view, if_neg same, stands] at left
          exact absurd isMade.vacant (left (by simp))
      · intro onlyRemoved location present vacant
        rw [Bool.not_false, view] at present
        split at present
        · exact present rfl
        · rename_i different
          have standsPrepared := loses.get?_ne_none present
          rw [← preparedEq] at standsPrepared
          have foundHere := onlyRemoved location (isMade_of_get? vacant standsPrepared)
          rw [foundBefore] at foundHere
          cases foundHere
          exact different rfl

/-! ## Failed attempts -/

/-- A failed attempt that gives no warning leaves nothing new exactly if every directory that it has
made is the one for the files, and if the failure is not that this directory could not be made.  A
write that fails is one that the system refuses: one that is cut short, as on a full disk, would also
leave the file that it has begun, unless that is the manifest. -/
theorem addsNothing_of_failed_write_iff
    (failed : (paths.write files base artifacts).outcome = .error failure)
    (quiet : (paths.write files base artifacts).warnings = []) :
    AddsNothing files (paths.write files base artifacts).files ↔
      ∀ location, IsMade files base paths location →
        (∃ path cause, failure = .file path cause) ∧
          (files.makeDirectories base paths.directory).1.locate base paths.directory =
            .ok { location } := by
  have course := course_write files base paths artifacts
  generalize paths.write files base artifacts = report at failed quiet course ⊢
  cases course with
  | @directoryFails prepared cause made =>
      cases failed
      have preparedEq : (files.makeDirectories base paths.directory).1 = prepared := by
        rw [made]
      constructor
      · intro addsNothing location isMade
        have stands := isMade.made
        rw [preparedEq] at stands
        exact absurd isMade.vacant (addsNothing location (by simp [stands]))
      · intro onlyFiles location present vacant
        have standsPrepared :
            (files.makeDirectories base paths.directory).1.get? location ≠ none := by
          rw [preparedEq]
          exact present
        obtain ⟨⟨path, cause, same⟩, -⟩ := onlyFiles location (isMade_of_get? vacant standsPrepared)
        cases same
  | manifestFails made notWritten =>
      cases failed
      have quietDirectory := (List.append_eq_nil_iff.mp quiet).2
      have exactly := addsNothing_discardDirectory_iff made
        (losesFiles_discardManifest _ base paths) quietDirectory
      simpa [discard_files, made] using exactly
  | pipelineFails made wrote notWritten =>
      cases failed
      have quietDirectory := (List.append_eq_nil_iff.mp quiet).2
      obtain ⟨slot, aimed, noSeparator, -, -, -⟩ := writeFile_eq_ok_iff.mp wrote
      obtain ⟨before, ends⟩ := endsWithName_of_target aimed noSeparator
      have exactly := addsNothing_discardDirectory_iff made
        (dropsManifest_discardManifest_written ends wrote).losesFiles quietDirectory
      simpa [discard_files, made] using exactly
  | completes made wrote wroteToo =>
      cases failed

def workFiles : FileTree :=
  (FileTree.empty.makeDirectories .root (Path.ofText "/sb/work".toList)).1

/-- Paths whose directory is to be made in another new one, and whose manifest is a directory. -/
def strayPaths : OutputPaths where
  directory := Path.ofText "/sb/envs/api".toList
  manifest := Path.ofText "/sb/work".toList
  pipeline := Path.ofText "/sb/envs/api/skaffold.yml".toList

def overlongPaths : OutputPaths where
  directory := Path.ofText ("/sb/envs/".toList ++ List.replicate 256 'a')
  manifest := Path.ofText ("/sb/envs/".toList ++ List.replicate 256 'a' ++ "/service.yml".toList)
  pipeline := Path.ofText ("/sb/envs/".toList ++ List.replicate 256 'a' ++ "/skaffold.yml".toList)

def strayArtifacts : Artifacts where
  name := "api".toList
  manifest := "kind: Service\n".toList
  pipeline := "kind: Config\n".toList

def onTheWay : Location :=
  [Path.ofText "envs".toList, Path.ofText "sb".toList]

set_option maxRecDepth 2000 in
theorem addsNothing_fails_overlongPaths :
    (overlongPaths.write workFiles .root strayArtifacts).outcome =
        .error (.directory overlongPaths.directory .nameTooLong) ∧
      (overlongPaths.write workFiles .root strayArtifacts).warnings = [] ∧
      ¬ AddsNothing workFiles (overlongPaths.write workFiles .root strayArtifacts).files := by
  have failed :
      (overlongPaths.write workFiles .root strayArtifacts).outcome =
        .error (.directory overlongPaths.directory .nameTooLong) := rfl
  have quiet : (overlongPaths.write workFiles .root strayArtifacts).warnings = [] := by
    decide +kernel
  refine ⟨failed, quiet, ?_⟩
  rw [addsNothing_of_failed_write_iff failed quiet]
  intro onlyFiles
  have isMade : IsMade workFiles .root overlongPaths onTheWay :=
    ⟨by decide +kernel, by decide +kernel⟩
  obtain ⟨⟨path, cause, same⟩, -⟩ := onlyFiles onTheWay isMade
  cases same

theorem directory_left_by_failed_write :
    (strayPaths.write workFiles .root strayArtifacts).outcome =
        .error (.file strayPaths.manifest .isADirectory) ∧
      (strayPaths.write workFiles .root strayArtifacts).warnings = [] ∧
      workFiles.get? onTheWay = none ∧
      (strayPaths.write workFiles .root strayArtifacts).files.get? onTheWay =
        some .directory := by
  exact ⟨rfl, by decide +kernel, by decide +kernel, by decide +kernel⟩

end RunManifest.OutputPaths
