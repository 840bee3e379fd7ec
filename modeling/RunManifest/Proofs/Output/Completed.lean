import RunManifest.Proofs.Files.Existing
import RunManifest.Proofs.Name
import RunManifest.Proofs.Output.Course

/-!
# Attempts to write that succeed

After a successful attempt the directory is there and both files hold their texts, each where its
path leads.  Where that is so already, another attempt succeeds and changes nothing.
-/

namespace RunManifest

theorem Path.endsWithName_join_ofText
    (base : Path) {name : Text} (accepted : Name.isComponent name = true) :
    (Path.join base (Path.ofText name)).EndsWithName (Path.names base) (Path.ofText name) := by
  have entry := Name.isEntryName_of_isComponent accepted
  exact Path.EndsWithName.join base entry.present entry.whole entry.notDot entry.notDotDot

namespace OutputPaths

open FileTree

variable {files : FileTree} {base : Base} {root : Path} {name : Text}
variable {paths : OutputPaths} {artifacts : Artifacts}

theorem directoryEnds_of_under (accepted : under root name = .ok paths) :
    paths.directory.EndsWithName (Path.names root) (Path.ofText name) := by
  obtain ⟨component, directoryEq, -, -⟩ := under_eq_ok_iff.mp accepted
  rw [directoryEq]
  exact Path.endsWithName_join_ofText root component

theorem directory_ne_nil (accepted : under root name = .ok paths) : paths.directory ≠ [] := by
  intro empty
  have named := (directoryEnds_of_under accepted).names_eq
  rw [empty] at named
  exact absurd named (by simp [Path.names, Path.pieces])

/-! ## Written files -/

/-- The directory is there, and both files hold their texts and are open. -/
structure Holds
    (files : FileTree) (base : Base) (paths : OutputPaths) (artifacts : Artifacts) : Prop where
  directory : files.isDirectory base paths.directory = true
  manifest : files.lookup? base paths.manifest = some (.file (Utf8.encode artifacts.manifest))
  pipeline : files.lookup? base paths.pipeline = some (.file (Utf8.encode artifacts.pipeline))

theorem Holds.readManifest (holds : Holds files base paths artifacts) :
    files.readFile base paths.manifest = .ok (Utf8.encode artifacts.manifest) :=
  readFile_of_lookup? holds.manifest

theorem Holds.readPipeline (holds : Holds files base paths artifacts) :
    files.readFile base paths.pipeline = .ok (Utf8.encode artifacts.pipeline) :=
  readFile_of_lookup? holds.pipeline

/-- The steps of a successful attempt. -/
theorem exists_steps_of_write
    (succeeded : (paths.write files base artifacts).outcome = .ok ()) :
    ∃ prepared withManifest complete,
      files.makeDirectories base paths.directory = (prepared, .ok ()) ∧
      prepared.writeFile base paths.manifest (Utf8.encode artifacts.manifest) =
        .ok withManifest ∧
      withManifest.writeFile base paths.pipeline (Utf8.encode artifacts.pipeline) =
        .ok complete ∧
      paths.write files base artifacts = ⟨complete, .ok (), []⟩ := by
  have course := course_write files base paths artifacts
  generalize paths.write files base artifacts = report at succeeded course ⊢
  cases course with
  | directoryFails made =>
      cases succeeded
  | manifestFails made notWritten =>
      cases succeeded
  | pipelineFails made wrote notWritten =>
      cases succeeded
  | completes made wrote wroteToo =>
      exact ⟨_, _, _, made, wrote, wroteToo, rfl⟩

theorem holds_of_write
    (accepted : under root name = .ok paths)
    (succeeded : (paths.write files base artifacts).outcome = .ok ()) :
    Holds (paths.write files base artifacts).files base paths artifacts := by
  obtain ⟨manifestEnds, pipelineEnds, -⟩ := hasOwnNames_of_under accepted
  obtain ⟨prepared, withManifest, complete, made, wrote, wroteToo, whole⟩ :=
    exists_steps_of_write succeeded
  have directory := isDirectory_of_makeDirectories (directory_ne_nil accepted) made
  have stays := isDirectory_of_keepsDirectories (keepsDirectories_of_writeFile wrote) directory
  have different : Path.ofText pipelineFile ≠ Path.ofText manifestFile := by
    decide
  rw [whole]
  exact
    { directory :=
        isDirectory_of_keepsDirectories (keepsDirectories_of_writeFile wroteToo) stays
      manifest :=
        lookup?_of_writeFile_elsewhere pipelineEnds manifestEnds different
          (lookup?_of_writeFile wrote) wroteToo
      pipeline := lookup?_of_writeFile wroteToo }

theorem write_of_holds
    (accepted : under root name = .ok paths) (holds : Holds files base paths artifacts) :
    paths.write files base artifacts = ⟨files, .ok (), []⟩ := by
  obtain ⟨manifestEnds, pipelineEnds, -⟩ := hasOwnNames_of_under accepted
  have made := makeDirectories_of_isDirectory holds.directory
  have wrote := writeFile_of_lookup? manifestEnds holds.manifest
  have wroteToo := writeFile_of_lookup? pipelineEnds holds.pipeline
  simp only [write, made, wrote, wroteToo]

/-- After a successful attempt to write the same attempt succeeds again and changes nothing. -/
theorem write_again
    (accepted : under root name = .ok paths)
    (succeeded : (paths.write files base artifacts).outcome = .ok ()) :
    paths.write (paths.write files base artifacts).files base artifacts =
      ⟨(paths.write files base artifacts).files, .ok (), []⟩ :=
  write_of_holds accepted (holds_of_write accepted succeeded)

end OutputPaths

end RunManifest
