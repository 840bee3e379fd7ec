import RunManifest.Output
import RunManifest.Proofs.Files.Changes

/-!
# The course of writing

An attempt to write goes as far as its first step that fails, and each step works on the tree that
the steps before it have left.  `course_write` is the one case analysis of `OutputPaths.write`.
-/

namespace RunManifest.OutputPaths

open FileTree

variable {files : FileTree} {base : Base} {root : Path} {name : Text}
variable {paths : OutputPaths} {artifacts : Artifacts}

/-- The manifest and the pipeline have names of their own in the directory, which is not the same
name. -/
structure HasOwnNames (paths : OutputPaths) : Prop where
  manifestEnds :
    paths.manifest.EndsWithName (Path.names paths.directory) (Path.ofText manifestFile)
  pipelineEnds :
    paths.pipeline.EndsWithName (Path.names paths.directory) (Path.ofText pipelineFile)
  different : paths.manifest ≠ paths.pipeline

theorem under_eq_ok_iff :
    under root name = .ok paths ↔
      Name.isComponent name = true ∧
        paths.directory = Path.join root (Path.ofText name) ∧
        paths.manifest = Path.join paths.directory (Path.ofText manifestFile) ∧
        paths.pipeline = Path.join paths.directory (Path.ofText pipelineFile) := by
  obtain ⟨directory, manifest, pipeline⟩ := paths
  unfold under Name.check
  by_cases component : Name.isComponent name = true
  · simp only [component, if_true, Except.map, Except.ok.injEq, mk.injEq, true_and]
    constructor
    · rintro ⟨rfl, rfl, rfl⟩
      exact ⟨rfl, rfl, rfl⟩
    · rintro ⟨rfl, rfl, rfl⟩
      exact ⟨rfl, rfl, rfl⟩
  · simp [component, Except.map]

theorem hasOwnNames_of_under (accepted : under root name = .ok paths) :
    HasOwnNames paths := by
  obtain ⟨-, -, manifestEq, pipelineEq⟩ := under_eq_ok_iff.mp accepted
  refine ⟨?_, ?_, ?_⟩
  · rw [manifestEq]
    apply Path.EndsWithName.join <;> decide
  · rw [pipelineEq]
    apply Path.EndsWithName.join <;> decide
  · rw [manifestEq, pipelineEq]
    intro same
    have sameNames : Path.ofText manifestFile = Path.ofText pipelineFile := by
      apply Path.join_right_injective _ _ same <;> decide
    exact absurd sameNames (by decide)

/-- The ways in which an attempt to write can go, each with the report that it ends in. -/
inductive Course (files : FileTree) (base : Base) (paths : OutputPaths) (artifacts : Artifacts) :
    WriteReport → Prop
  | directoryFails {prepared : FileTree} {cause : SystemError}
      (made : files.makeDirectories base paths.directory = (prepared, .error cause)) :
      Course files base paths artifacts
        ⟨prepared, .error (.directory paths.directory cause), []⟩
  | manifestFails {prepared : FileTree} {cause : SystemError}
      (made : files.makeDirectories base paths.directory = (prepared, .ok ()))
      (failed :
        prepared.writeFile base paths.manifest (Utf8.encode artifacts.manifest) = .error cause) :
      Course files base paths artifacts
        (discard prepared base paths (!files.exists? base paths.directory)
          (.file paths.manifest cause))
  | pipelineFails {prepared withManifest : FileTree} {cause : SystemError}
      (made : files.makeDirectories base paths.directory = (prepared, .ok ()))
      (written :
        prepared.writeFile base paths.manifest (Utf8.encode artifacts.manifest) =
          .ok withManifest)
      (failed :
        withManifest.writeFile base paths.pipeline (Utf8.encode artifacts.pipeline) =
          .error cause) :
      Course files base paths artifacts
        (discard withManifest base paths (!files.exists? base paths.directory)
          (.file paths.pipeline cause))
  | completes {prepared withManifest complete : FileTree}
      (made : files.makeDirectories base paths.directory = (prepared, .ok ()))
      (written :
        prepared.writeFile base paths.manifest (Utf8.encode artifacts.manifest) =
          .ok withManifest)
      (writtenToo :
        withManifest.writeFile base paths.pipeline (Utf8.encode artifacts.pipeline) =
          .ok complete) :
      Course files base paths artifacts ⟨complete, .ok (), []⟩

theorem course_write
    (files : FileTree) (base : Base) (paths : OutputPaths) (artifacts : Artifacts) :
    Course files base paths artifacts (paths.write files base artifacts) := by
  unfold write
  split
  · exact .directoryFails ‹_›
  · split
    · exact .manifestFails ‹_› ‹_›
    · split
      · exact .pipelineFails ‹_› ‹_› ‹_›
      · exact .completes ‹_› ‹_› ‹_›

/-! ## Cleaning up -/

theorem discard_files (isNew : Bool) (failure : WriteFailure) :
    (discard files base paths isNew failure).files =
      (discardDirectory (discardManifest files base paths).1 base paths isNew).1 := rfl

theorem discardManifest_of_not_isFile (absent : files.isFile base paths.manifest = false) :
    (discardManifest files base paths).1 = files := by
  simp [discardManifest, absent]

/-- A manifest that stands in its slot is removed, and nothing else. -/
theorem get?_discardManifest
    {before : List Bytes} {last : Bytes} (ends : paths.manifest.EndsWithName before last)
    {slot : Slot files} (aimed : files.target base paths.manifest = .ok (.slot slot))
    (short : slot.name.length ≤ nameLimit) {file : File}
    (stands : files.get? slot.location = some (.file file)) (location : Location) :
    (discardManifest files base paths).1.get? location =
      if location = slot.location then none else files.get? location := by
  have leadsToFile : files.isFile base paths.manifest = true :=
    (isFile_eq_true_iff ends).mpr ⟨slot, file, aimed, short, stands⟩
  have removed :
      files.removeFile base paths.manifest = .ok (files.removeAll slot.name slot.parent) :=
    removeFile_eq_ok_iff.mpr ⟨slot, aimed, ends.noSeparator, short, ⟨file, stands⟩, rfl⟩
  simp only [discardManifest, leadsToFile, if_true, removed]
  exact get?_removeAll_of_vacant (get?_below_file stands) location

/-- Cleaning up the directory removes at most a directory. -/
theorem get?_discardDirectory (isNew : Bool) (location : Location) :
    (discardDirectory files base paths isNew).1.get? location = files.get? location ∨
      files.get? location = some .directory ∧
        (discardDirectory files base paths isNew).1.get? location = none := by
  unfold discardDirectory
  split
  · split
    · rename_i cleaned removed
      obtain ⟨slot, -, directory, view⟩ := get?_of_removeDirectory removed
      by_cases same : location = slot.location
      · exact .inr ⟨same ▸ directory, (view location).trans (if_pos same)⟩
      · exact .inl ((view location).trans (if_neg same))
    · exact .inl rfl
  · exact .inl rfl

theorem get?_discardDirectory_of_ne_directory
    (isNew : Bool) {location : Location} (other : files.get? location ≠ some .directory) :
    (discardDirectory files base paths isNew).1.get? location = files.get? location := by
  rcases get?_discardDirectory isNew location with same | ⟨directory, -⟩
  · exact same
  · exact absurd directory other

end RunManifest.OutputPaths
