import RunManifest.Proofs.Output.Attempt
import RunManifest.Proofs.Output.FailingWrite
import RunManifest.Proofs.Output.Resuming

/-!
# What a successful attempt leaves

A successful attempt sets the two files and makes the directories that are missing on the way to
them, and it touches nothing else.  What the files held before is of no account: another attempt
replaces it, and leaves what it would have left without the first one.
-/

namespace RunManifest

/-- A location is that of an entry on the way to a path, which may be the one at its end. -/
def FileTree.OnWay (tree : FileTree) (base : Base) (path : Path) (location : Location) : Prop :=
  ∃ step ∈ path :: path.parents, tree.NamesEntry base step location

namespace OutputPaths

open FileTree

variable {files : FileTree} {base : Base} {root : Path} {name : Text}
variable {paths : OutputPaths} {artifacts : Artifacts}

/-- The files hold their texts, all directories on the way to them are there, and beyond that the
later tree is the earlier one. -/
structure Sets (paths : OutputPaths) (artifacts : Artifacts) (base : Base)
    (files later : FileTree) : Prop where
  manifest : later.readFile base paths.manifest = .ok (Utf8.encode artifacts.manifest)
  pipeline : later.readFile base paths.pipeline = .ok (Utf8.encode artifacts.pipeline)
  directory : later.isDirectory base paths.directory = true
  way : ∀ step ∈ paths.directory.parents, step = [] ∨ later.isDirectory base step = true
  others : ∀ location, later.get? location = files.get? location ∨
    later.NamesEntry base paths.manifest location ∨
    later.NamesEntry base paths.pipeline location ∨
    files.get? location = none ∧ later.get? location = some .directory ∧
      later.OnWay base paths.directory location

/-- The directories can be made, and in the tree with them both files can be written. -/
structure Ready (paths : OutputPaths) (base : Base) (name : Text) (place : Location)
    (files prepared : FileTree) : Prop where
  made : files.makeDirectories base paths.directory = (prepared, .ok ())
  inside : Inside base paths name place prepared
  accepts : Accepts prepared paths.manifest (Path.ofText manifestFile :: place)
  acceptsToo : Accepts prepared paths.pipeline (Path.ofText pipelineFile :: place)

/-- What stands in a tree once the two files have been written into another one. -/
def Receives (artifacts : Artifacts) (place : Location) (prepared whole : FileTree) : Prop :=
  ∀ location, whole.get? location =
    if location = Path.ofText pipelineFile :: place then
      some (.file (Utf8.encode artifacts.pipeline))
    else if location = Path.ofText manifestFile :: place then
      some (.file (Utf8.encode artifacts.manifest))
    else prepared.get? location

section Steps

variable {prepared whole : FileTree} {place : Location}

theorem inside_of_isDirectory (accepted : under root name = .ok paths)
    (leads : files.isDirectory base paths.directory = true) :
    ∃ place, Inside base paths name place files := by
  obtain ⟨short, place, names, stands⟩ :=
    (isDirectory_iff_namesEntry (directoryEnds_of_under accepted)).mp leads
  exact ⟨place, names, short, stands⟩

theorem exists_ready_of_write (accepted : under root name = .ok paths)
    (succeeded : (paths.write files base artifacts).outcome = .ok ()) :
    ∃ place prepared, Ready paths base name place files prepared := by
  obtain ⟨prepared, withManifest, complete, made, wrote, wroteToo, -⟩ :=
    exists_steps_of_write succeeded
  have leads := isDirectory_of_makeDirectories (directory_ne_nil accepted) made
  obtain ⟨place, inside⟩ := inside_of_isDirectory accepted leads
  have accepts : Accepts prepared paths.manifest (Path.ofText manifestFile :: place) := by
    by_contra refuses
    obtain ⟨cause, failed⟩ :=
      writeFile_of_not_accepts accepted (isFile_manifest accepted) inside refuses _
    rw [wrote] at failed
    cases failed
  have acceptsToo : Accepts prepared paths.pipeline (Path.ofText pipelineFile :: place) := by
    obtain ⟨written, wroteAgain, view⟩ :=
      exists_writeFile accepted (isFile_manifest accepted) inside accepts _
    rw [wrote] at wroteAgain
    cases wroteAgain
    by_contra refuses
    obtain ⟨cause, failed⟩ :=
      writeFile_of_not_accepts accepted (isFile_pipeline accepted)
        (inside.of_keepsDirectories (keepsDirectories_of_writeFile wrote))
        (fun acceptsThen => refuses ((accepts_pipeline_iff view).mp acceptsThen)) _
    rw [wroteToo] at failed
    cases failed
  exact ⟨place, prepared, made, inside, accepts, acceptsToo⟩

theorem Ready.exists_receives (ready : Ready paths base name place files prepared)
    (accepted : under root name = .ok paths) (artifacts : Artifacts) :
    ∃ whole, paths.write files base artifacts = ⟨whole, .ok (), []⟩ ∧
      Receives artifacts place prepared whole := by
  obtain ⟨whole, written, view⟩ :=
    exists_writeInto accepted ready.inside ready.accepts ready.acceptsToo artifacts
  refine ⟨whole, ?_, view⟩
  rw [write_eq_writeAs, writeAs, ready.made]
  exact written _

theorem Ready.keepsDirectories (ready : Ready paths base name place files prepared)
    (receives : Receives artifacts place prepared whole) : KeepsDirectories prepared whole :=
  Ending.keepsDirectories (.complete ready.accepts ready.acceptsToo receives)

theorem Ready.again (ready : Ready paths base name place files prepared)
    (accepted : under root name = .ok paths)
    (receives : Receives artifacts place prepared whole) :
    Ready paths base name place whole whole := by
  have inside := ready.inside.of_keepsDirectories (ready.keepsDirectories receives)
  have leads := (isDirectory_iff_namesEntry (directoryEnds_of_under accepted)).mpr
    ⟨inside.short, place, inside.names, inside.stands⟩
  refine ⟨makeDirectories_of_isDirectory leads, inside, ⟨ready.accepts.1, ?_⟩,
    ⟨ready.acceptsToo.1, ?_⟩⟩
  · rw [OpenAt, receives]
    split
    · rfl
    · rw [if_pos rfl]
      rfl
  · exact .of_content ((receives _).trans (if_pos rfl))

theorem Receives.replaces {others : Artifacts} {later : FileTree}
    (receives : Receives artifacts place prepared whole)
    (receivesToo : Receives others place whole later) : Receives others place prepared later := by
  intro location
  rw [receivesToo, receives]
  split
  · rfl
  · split
    · rfl
    · rfl

theorem Receives.unique {other : FileTree} (receives : Receives artifacts place prepared whole)
    (otherReceives : Receives artifacts place prepared other) : whole = other :=
  ext_get? fun location => (receives location).trans (otherReceives location).symm

/-- What has been received is all that has changed since the directories were made. -/
theorem Ready.others (ready : Ready paths base name place files prepared)
    (accepted : under root name = .ok paths)
    (receives : Receives artifacts place prepared whole) (location : Location) :
    whole.get? location = files.get? location ∨
      whole.NamesEntry base paths.manifest location ∨
      whole.NamesEntry base paths.pipeline location ∨
      files.get? location = none ∧ whole.get? location = some .directory ∧
        whole.OnWay base paths.directory location := by
  have keeps := ready.keepsDirectories receives
  have inside := ready.inside.of_keepsDirectories keeps
  have added := addsNamed_makeDirectories files base paths.directory location
  rw [ready.made] at added
  have view := receives location
  split at view
  · rename_i atPipeline
    exact .inr <| .inr <| .inl <|
      (namesEntry_file_iff accepted (isFile_pipeline accepted) inside).mpr
        ⟨ready.acceptsToo.1, atPipeline⟩
  · split at view
    · rename_i atManifest
      exact .inr <| .inl <|
        (namesEntry_file_iff accepted (isFile_manifest accepted) inside).mpr
          ⟨ready.accepts.1, atManifest⟩
    · rw [view]
      rcases added with same | ⟨absent, made, step, member, names⟩
      · exact .inl same
      · exact .inr <| .inr <| .inr
          ⟨absent, made, step, member, names.of_keepsDirectories keeps⟩

end Steps

/-! ## Attempts that succeed -/

theorem sets_of_write (accepted : under root name = .ok paths)
    (succeeded : (paths.write files base artifacts).outcome = .ok ()) :
    Sets paths artifacts base files (paths.write files base artifacts).files := by
  have holds := holds_of_write accepted succeeded
  obtain ⟨place, prepared, ready⟩ := exists_ready_of_write accepted succeeded
  obtain ⟨whole, written, receives⟩ := ready.exists_receives accepted artifacts
  rw [written] at holds ⊢
  have usable := (isDirectory_iff_walk.mp holds.directory).1
  exact
    { manifest := holds.readManifest
      pipeline := holds.readPipeline
      directory := holds.directory
      way := isDirectory_of_mem_way (isWay_of_under accepted usable base) holds.directory
      others := ready.others accepted receives }

/-- After a successful attempt, another one succeeds whatever it writes, and ends as if it had been
the first. -/
theorem write_after_write (accepted : under root name = .ok paths)
    (succeeded : (paths.write files base artifacts).outcome = .ok ()) (others : Artifacts) :
    (paths.write files base others).outcome = .ok () ∧
      paths.write (paths.write files base artifacts).files base others =
        paths.write files base others := by
  obtain ⟨place, prepared, ready⟩ := exists_ready_of_write accepted succeeded
  obtain ⟨whole, written, receives⟩ := ready.exists_receives accepted artifacts
  obtain ⟨alone, writtenAlone, receivesAlone⟩ := ready.exists_receives accepted others
  obtain ⟨later, writtenLater, receivesLater⟩ :=
    (ready.again accepted receives).exists_receives accepted others
  rw [written, writtenAlone, writtenLater,
    (receives.replaces receivesLater).unique receivesAlone]
  exact ⟨rfl, rfl⟩

/-- A successful attempt sets the two files and the directories on the way to them, and nothing
else.  The same attempt succeeds again and changes nothing, and an attempt with other texts leaves
what it would have left without this one. -/
theorem write_overwrites (accepted : under root name = .ok paths)
    (succeeded : (paths.write files base artifacts).outcome = .ok ()) :
    Sets paths artifacts base files (paths.write files base artifacts).files ∧
    paths.write (paths.write files base artifacts).files base artifacts =
      ⟨(paths.write files base artifacts).files, .ok (), []⟩ ∧
    ∀ others : Artifacts,
      (paths.write files base others).outcome = .ok () ∧
      paths.write (paths.write files base artifacts).files base others =
        paths.write files base others :=
  ⟨sets_of_write accepted succeeded, write_again accepted succeeded,
    write_after_write accepted succeeded⟩

/-- Files without a pipeline, and with a manifest that is longer than the next one. -/
def halfWritten : FileTree :=
  let prepared := (FileTree.empty.makeDirectories .root (Path.ofText "/out/api".toList)).1
  let manifest := Utf8.encode "kind: Service\nspec: old\nmore: lines\n".toList
  (prepared.writeFile .root blockedPaths.manifest manifest).toOption.getD prepared

def shortArtifacts : Artifacts where
  name := "api".toList
  manifest := "kind: Service\n".toList
  pipeline := []

theorem write_overwrites_halfWritten :
    under (Path.ofText "/out".toList) "api".toList = .ok blockedPaths ∧
      (blockedPaths.write halfWritten .root nextArtifacts).outcome = .ok () ∧
      (blockedPaths.write halfWritten .root nextArtifacts).files.readFile .root
        blockedPaths.manifest = .ok (Utf8.encode nextArtifacts.manifest) ∧
      blockedPaths.write (blockedPaths.write halfWritten .root nextArtifacts).files .root
        shortArtifacts = blockedPaths.write halfWritten .root shortArtifacts := by
  have accepted : under (Path.ofText "/out".toList) "api".toList = .ok blockedPaths := rfl
  have succeeded : (blockedPaths.write halfWritten .root nextArtifacts).outcome = .ok () := rfl
  obtain ⟨sets, -, replaced⟩ := write_overwrites accepted succeeded
  exact ⟨accepted, succeeded, sets.manifest, (replaced shortArtifacts).2⟩

end OutputPaths

end RunManifest
