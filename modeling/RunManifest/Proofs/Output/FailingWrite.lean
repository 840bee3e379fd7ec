import RunManifest.Proofs.Files.Existing
import RunManifest.Proofs.Output.Course

/-!
# Attempts to write that fail

Once the directory is there, a failed attempt removes whatever file stands where the manifest goes,
whether the attempt has written it or not.  Every other file is kept.
-/

namespace RunManifest.OutputPaths

open FileTree

variable {files written : FileTree} {base : Base} {root : Path} {name : Text}
variable {paths : OutputPaths} {artifacts : Artifacts} {failure : WriteFailure}
variable {before : List Bytes} {last bytes : Bytes}

/-- The file to which the path of the manifest leads is gone in a later tree, and everything else is
there as it was. -/
def DropsManifest (files : FileTree) (base : Base) (paths : OutputPaths) (later : FileTree) :
    Prop :=
  ∀ location, later.get? location =
    if files.locate base paths.manifest = .ok { location } ∧
        files.get? location ≠ some .directory then none
    else files.get? location

theorem dropsManifest_of_slot (ends : paths.manifest.EndsWithName before last)
    {slot : Slot files} (aimed : files.target base paths.manifest = .ok (.slot slot))
    (short : slot.name.length ≤ nameLimit)
    (noDirectory : files.get? slot.location ≠ some .directory) {later : FileTree}
    (view : ∀ location, later.get? location =
      if location = slot.location then none else files.get? location) :
    DropsManifest files base paths later := by
  intro location
  rw [view]
  by_cases same : location = slot.location
  · subst same
    rw [if_pos rfl]
    split
    · rfl
    · rename_i keeps
      -- The path leads to whatever stands in the slot, so that nothing does.
      by_contra stands
      exact keeps
        ⟨(locate_eq_ok_iff ends).mpr ⟨slot, aimed, short, Ne.symm stands, rfl⟩, noDirectory⟩
  · rw [if_neg same, if_neg]
    rintro ⟨found, -⟩
    obtain ⟨other, aimedOther, -, -, placeEq⟩ := (locate_eq_ok_iff ends).mp found
    rw [aimed] at aimedOther
    cases aimedOther
    exact same (Place.mk.inj placeEq).1

/-- A manifest that has just been written is removed, with what stood in its place. -/
theorem dropsManifest_discardManifest_written (ends : paths.manifest.EndsWithName before last)
    (wrote : files.writeFile base paths.manifest bytes = .ok written) :
    DropsManifest files base paths (discardManifest written base paths).1 := by
  have keeps := keepsDirectories_of_writeFile wrote
  obtain ⟨slot, aimed, -, short, granted, rfl⟩ := writeFile_eq_ok_iff.mp wrote
  have stands :
      (files.put slot (.file bytes) (.inr granted.notDirectory)).get? slot.location =
        some (.file bytes) := by
    rw [get?_put, if_pos rfl]
  refine dropsManifest_of_slot ends aimed short granted.notDirectory ?_
  intro location
  rw [get?_discardManifest ends (target_of_keepsDirectories keeps aimed) short stands, get?_put]
  change (if location = slot.location then none else _) = _
  by_cases same : location = slot.location
  · rw [if_pos same, if_pos same]
  · rw [if_neg same, if_neg same, if_neg same]

/-- A manifest that could not be written is removed as well. -/
theorem dropsManifest_discardManifest (ends : paths.manifest.EndsWithName before last)
    (files : FileTree) (base : Base) :
    DropsManifest files base paths (discardManifest files base paths).1 := by
  cases leadsToFile : files.isFile base paths.manifest with
  | true =>
      obtain ⟨slot, file, aimed, short, stands⟩ := (isFile_eq_true_iff ends).mp leadsToFile
      exact dropsManifest_of_slot ends aimed short (by simp [stands])
        (get?_discardManifest ends aimed short stands)
  | false =>
      rw [discardManifest_of_not_isFile leadsToFile]
      intro location
      split
      · rename_i dropped
        obtain ⟨found, noDirectory⟩ := dropped
        cases stands : files.get? location with
        | none =>
            rfl
        | some entry =>
            cases entry with
            | directory =>
                exact absurd stands noDirectory
            | file file =>
                rw [isFile_of_locate found stands] at leadsToFile
                cases leadsToFile
      · rfl

/-- Where a file stood, removing the directory as well makes no difference. -/
theorem DropsManifest.get?_discardDirectory {later : FileTree}
    (drops : DropsManifest files base paths later) (isNew : Bool) {location : Location}
    (noDirectory : files.get? location ≠ some .directory) :
    (discardDirectory later base paths isNew).1.get? location = later.get? location := by
  refine get?_discardDirectory_of_ne_directory isNew ?_
  rw [drops]
  split
  · simp
  · exact noDirectory

/-! ## Files that stood before -/

/-- Every file is there afterwards as it was. -/
def KeepsFiles (files later : FileTree) : Prop :=
  ∀ location file, files.get? location = some (.file file) →
    later.get? location = some (.file file)

/-- A failed attempt either has not been able to make the directory and loses nothing, or it drops
the manifest before it cleans up the directory. -/
theorem dropsManifest_of_failed_write (accepted : under root name = .ok paths)
    (failed : (paths.write files base artifacts).outcome = .error failure) :
    (∃ cause, failure = .directory paths.directory cause) ∧
        KeepsFiles files (paths.write files base artifacts).files ∨
      (∃ path cause, failure = .file path cause) ∧
        ∃ cleaned isNew,
          DropsManifest (files.makeDirectories base paths.directory).1 base paths cleaned ∧
          (paths.write files base artifacts).files =
            (discardDirectory cleaned base paths isNew).1 := by
  have manifestEnds := (hasOwnNames_of_under accepted).manifestEnds
  have course := course_write files base paths artifacts
  generalize paths.write files base artifacts = report at failed course ⊢
  cases course with
  | directoryFails made =>
      cases failed
      have adds := addsDirectories_makeDirectories files base paths.directory
      rw [made] at adds
      exact .inl ⟨⟨_, rfl⟩, fun _ _ stood => adds.get?_eq stood⟩
  | manifestFails made notWritten =>
      cases failed
      rw [made]
      exact .inr ⟨⟨_, _, rfl⟩, _, _, dropsManifest_discardManifest manifestEnds _ base, rfl⟩
  | pipelineFails made wrote notWritten =>
      cases failed
      rw [made]
      exact .inr
        ⟨⟨_, _, rfl⟩, _, _, dropsManifest_discardManifest_written manifestEnds wrote, rfl⟩
  | completes made wrote wroteToo =>
      cases failed

/-- A failed attempt keeps every file exactly if the directory could not be made, or if no file
stands where the manifest goes once it is made.  That a write fails means here that the system
refuses to open the file: one that is cut short later has emptied the file before. -/
theorem keepsFiles_of_failed_write_iff (accepted : under root name = .ok paths)
    (failed : (paths.write files base artifacts).outcome = .error failure) :
    KeepsFiles files (paths.write files base artifacts).files ↔
      (∃ cause, failure = .directory paths.directory cause) ∨
        (files.makeDirectories base paths.directory).1.isFile base paths.manifest = false := by
  have manifestEnds := (hasOwnNames_of_under accepted).manifestEnds
  have adds := addsDirectories_makeDirectories files base paths.directory
  rcases dropsManifest_of_failed_write accepted failed with
    ⟨directoryFailed, keeps⟩ | ⟨⟨path, cause, fileFailed⟩, cleaned, isNew, drops, left⟩
  · exact ⟨fun _ => .inl directoryFailed, fun _ => keeps⟩
  · constructor
    · intro keeps
      right
      rw [Bool.eq_false_iff]
      intro leadsToFile
      obtain ⟨slot, file, aimed, short, stands⟩ := (isFile_eq_true_iff manifestEnds).mp leadsToFile
      have found := (locate_eq_ok_iff manifestEnds).mpr ⟨slot, aimed, short, by simp [stands], rfl⟩
      have noDirectory :
          (files.makeDirectories base paths.directory).1.get? slot.location ≠ some .directory := by
        simp [stands]
      have gone := drops.get?_discardDirectory isNew noDirectory
      rw [← left, drops, if_pos ⟨found, noDirectory⟩] at gone
      -- The directories that were made are no files, so that this one stood there from the start.
      rcases adds slot.location with same | ⟨-, added⟩
      · rw [stands] at same
        rw [keeps slot.location file same.symm] at gone
        cases gone
      · rw [stands] at added
        cases added
    · intro harmless location file stood
      have stands := adds.get?_eq stood
      rcases harmless with ⟨cause, same⟩ | absent
      · rw [fileFailed] at same
        cases same
      · have elsewhere :
            (files.makeDirectories base paths.directory).1.locate base paths.manifest ≠
              .ok { location } := by
          intro found
          rw [isFile_of_locate found stands] at absent
          cases absent
        rw [left, drops.get?_discardDirectory isNew (by simp [stands]), drops,
          if_neg fun dropped => elsewhere dropped.1, stands]

/-- The paths under `/out` for the name `api`. -/
def blockedPaths : OutputPaths where
  directory := Path.ofText "/out/api".toList
  manifest := Path.ofText "/out/api/service.yml".toList
  pipeline := Path.ofText "/out/api/skaffold.yml".toList

/-- An output directory in which a directory stands in the way of the pipeline, with some files. -/
def outputWith (files : List (Text × File)) : FileTree :=
  files.foldl
    (fun tree entry =>
      (tree.storeFile .root (Path.join blockedPaths.directory (Path.ofText entry.1)) entry.2
        ).toOption.getD tree)
    (FileTree.empty.makeDirectories .root blockedPaths.pipeline).1

/-- A file of notes, which is none of those that are written. -/
def notes : Text × File :=
  ("notes".toList, Utf8.encode "keep".toList)

def earlierManifest : File where
  content := Utf8.encode "kind: Service\n".toList

def blockedFiles : FileTree :=
  outputWith [(manifestFile, earlierManifest), notes]

/-- The same manifest for a user who may read it and not write it. -/
def lockedFiles : FileTree :=
  outputWith [(manifestFile, { earlierManifest with access := .readOnly .permissionDenied })]

def nextArtifacts : Artifacts where
  name := "api".toList
  manifest := "kind: Service\nspec: new\n".toList
  pipeline := "kind: Config\n".toList

def inOutput (file : Text) : Location :=
  [Path.ofText file, Path.ofText "api".toList, Path.ofText "out".toList]

theorem notes_kept_by_failed_write :
    under (Path.ofText "/out".toList) "api".toList = .ok blockedPaths ∧
      (blockedPaths.write (outputWith [notes]) .root nextArtifacts).outcome =
        .error (.file blockedPaths.pipeline .isADirectory) ∧
      KeepsFiles (outputWith [notes])
        (blockedPaths.write (outputWith [notes]) .root nextArtifacts).files := by
  have accepted : under (Path.ofText "/out".toList) "api".toList = .ok blockedPaths := rfl
  have failed :
      (blockedPaths.write (outputWith [notes]) .root nextArtifacts).outcome =
        .error (.file blockedPaths.pipeline .isADirectory) := rfl
  refine ⟨accepted, failed, (keepsFiles_of_failed_write_iff accepted failed).mpr (.inr ?_)⟩
  decide +kernel

/-- The manifest of the earlier run is gone where the pipeline cannot be written, and also where it
is the manifest itself that cannot be written. -/
theorem manifest_lost_by_failed_write :
    ((blockedPaths.write blockedFiles .root nextArtifacts).outcome =
          .error (.file blockedPaths.pipeline .isADirectory) ∧
        blockedFiles.get? (inOutput manifestFile) = some (.file earlierManifest) ∧
        (blockedPaths.write blockedFiles .root nextArtifacts).files.get?
          (inOutput manifestFile) = none) ∧
      (blockedPaths.write lockedFiles .root nextArtifacts).outcome =
        .error (.file blockedPaths.manifest .permissionDenied) ∧
      lockedFiles.get? (inOutput manifestFile) ≠ none ∧
      (blockedPaths.write lockedFiles .root nextArtifacts).files.get?
        (inOutput manifestFile) = none := by
  exact ⟨⟨rfl, by decide +kernel, by decide +kernel⟩, rfl, by decide +kernel, by decide +kernel⟩

end RunManifest.OutputPaths
