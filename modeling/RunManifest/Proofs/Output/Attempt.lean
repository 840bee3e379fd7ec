import RunManifest.Proofs.Files.Entries
import RunManifest.Proofs.Output.Extent

/-!
# What an attempt to write does in its directory

Once the directory for the files has a place, an attempt to write depends on what stands there and
below it, and changes nothing else.  Whether the directory counts as new only matters for whether it
is removed when it is empty in the end.
-/

namespace RunManifest.OutputPaths

open FileTree

variable {tree later one other cleaned otherCleaned : FileTree} {base otherBase : Base}
variable {root : Path} {name : Text} {paths : OutputPaths} {artifacts : Artifacts}
variable {place : Location} {isNew succeeded otherSucceeded : Bool}

/-- What follows once the directory is there. -/
def writeInto
    (prepared : FileTree) (base : Base) (paths : OutputPaths) (artifacts : Artifacts)
    (isNew : Bool) : WriteReport :=
  match prepared.writeFile base paths.manifest (Utf8.encode artifacts.manifest) with
  | .error cause => discard prepared base paths isNew (.file paths.manifest cause)
  | .ok withManifest =>
      match withManifest.writeFile base paths.pipeline (Utf8.encode artifacts.pipeline) with
      | .error cause => discard withManifest base paths isNew (.file paths.pipeline cause)
      | .ok complete => ⟨complete, .ok (), []⟩

/-- An attempt that takes the directory for new or not. -/
def writeAs
    (files : FileTree) (base : Base) (paths : OutputPaths) (artifacts : Artifacts)
    (isNew : Bool) : WriteReport :=
  match files.makeDirectories base paths.directory with
  | (prepared, .error cause) => ⟨prepared, .error (.directory paths.directory cause), []⟩
  | (prepared, .ok ()) => writeInto prepared base paths artifacts isNew

theorem write_eq_writeAs (files : FileTree) (base : Base) (paths : OutputPaths)
    (artifacts : Artifacts) :
    paths.write files base artifacts =
      writeAs files base paths artifacts (!files.exists? base paths.directory) := rfl

/-- The directory for the files stands at a place to which its path leads. -/
structure Inside (base : Base) (paths : OutputPaths) (name : Text) (place : Location)
    (tree : FileTree) : Prop where
  names : tree.NamesEntry base paths.directory place
  short : (Path.ofText name).length ≤ nameLimit
  stands : tree.get? place = some .directory

theorem Inside.of_keepsDirectories (inside : Inside base paths name place tree)
    (keeps : KeepsDirectories tree later) :
    Inside base paths name place later where
  names := inside.names.of_keepsDirectories keeps
  short := inside.short
  stands := keeps place inside.stands

/-- A file can be written in the directory. -/
def Accepts (tree : FileTree) (file : Path) (location : Location) : Prop :=
  IsUsable file ∧ tree.OpenAt location

/-- One of the two files, with its name and its place. -/
structure IsFile (paths : OutputPaths) (file : Path) (fileName : Text) : Prop where
  fileEq : file = Path.join paths.directory (Path.ofText fileName)
  entry : Path.IsEntryName (Path.ofText fileName)
  short : (Path.ofText fileName).length ≤ nameLimit

theorem isFile_manifest (accepted : under root name = .ok paths) :
    IsFile paths paths.manifest manifestFile := by
  obtain ⟨-, -, manifestEq, -⟩ := under_eq_ok_iff.mp accepted
  exact ⟨manifestEq, Name.isEntryName_of_isComponent (by decide), by decide⟩

theorem isFile_pipeline (accepted : under root name = .ok paths) :
    IsFile paths paths.pipeline pipelineFile := by
  obtain ⟨-, -, -, pipelineEq⟩ := under_eq_ok_iff.mp accepted
  exact ⟨pipelineEq, Name.isEntryName_of_isComponent (by decide), by decide⟩

section Writing

variable {file : Path} {fileName : Text} {content : Bytes}

theorem namesEntry_file_iff (accepted : under root name = .ok paths)
    (isFile : IsFile paths file fileName) (inside : Inside base paths name place tree)
    {location : Location} :
    tree.NamesEntry base file location ↔
      IsUsable file ∧ location = Path.ofText fileName :: place := by
  rw [isFile.fileEq, namesEntry_join_iff (directoryEnds_of_under accepted) isFile.entry]
  refine and_congr_right fun _ => ?_
  constructor
  · rintro ⟨directory, names, -, -, rfl⟩
    rw [names.unique inside.names]
  · rintro rfl
    exact ⟨place, inside.names, inside.short, inside.stands, rfl⟩

theorem fileEnds_of_isFile (isFile : IsFile paths file fileName) :
    file.EndsWithName (Path.names paths.directory) (Path.ofText fileName) := by
  have entry := isFile.entry
  rw [isFile.fileEq]
  exact .join paths.directory entry.present entry.whole entry.notDot entry.notDotDot

/-- A file that the directory accepts is written, and nothing else changes. -/
theorem exists_writeFile (accepted : under root name = .ok paths)
    (isFile : IsFile paths file fileName) (inside : Inside base paths name place tree)
    (accepts : Accepts tree file (Path.ofText fileName :: place)) (content : Bytes) :
    ∃ later, tree.writeFile base file content = .ok later ∧
      ∀ location, later.get? location =
        if location = Path.ofText fileName :: place then some (.file content)
        else tree.get? location := by
  have ends := fileEnds_of_isFile isFile
  obtain ⟨slot, aimed, located⟩ :=
    (namesEntry_file_iff accepted isFile inside).mpr ⟨accepts.1, rfl⟩
  obtain ⟨-, -, -, -, nameEq⟩ := (target_eq_slot_iff ends).mp aimed
  have short : slot.name.length ≤ nameLimit := nameEq ▸ isFile.short
  have granted : tree.OpenAt slot.location := located ▸ accepts.2
  refine ⟨_, writeFile_eq_ok_iff.mpr ⟨slot, aimed, ends.noSeparator, short, granted, rfl⟩, ?_⟩
  intro location
  rw [get?_put, located]

theorem writeFile_of_not_accepts (accepted : under root name = .ok paths)
    (isFile : IsFile paths file fileName) (inside : Inside base paths name place tree)
    (refuses : ¬ Accepts tree file (Path.ofText fileName :: place)) (content : Bytes) :
    ∃ cause, tree.writeFile base file content = .error cause := by
  cases wrote : tree.writeFile base file content with
  | error cause =>
      exact ⟨cause, rfl⟩
  | ok later =>
      obtain ⟨slot, aimed, -, -, granted, -⟩ := writeFile_eq_ok_iff.mp wrote
      obtain ⟨usable, located⟩ :=
        (namesEntry_file_iff accepted isFile inside).mp ⟨slot, aimed, rfl⟩
      exact absurd ⟨usable, located ▸ granted⟩ refuses

end Writing

/-- Whatever file stands at the place of the manifest is gone in a later tree, provided that the
path of the manifest leads there. -/
def DropsFile (tree : FileTree) (paths : OutputPaths) (place : Location) (later : FileTree) :
    Prop :=
  ∀ location, later.get? location =
    if location = Path.ofText manifestFile :: place ∧ IsUsable paths.manifest ∧
        tree.get? location ≠ some .directory then none
    else tree.get? location

theorem dropsFile_of_dropsManifest (accepted : under root name = .ok paths)
    (inside : Inside base paths name place tree) (drops : DropsManifest tree base paths later) :
    DropsFile tree paths place later := by
  have isManifest := isFile_manifest accepted
  have ends := fileEnds_of_isFile isManifest
  intro location
  rw [drops]
  cases stands : tree.get? location with
  | none =>
      simp
  | some entry =>
      have found :
          tree.locate base paths.manifest = .ok { location } ↔
            location = Path.ofText manifestFile :: place ∧ IsUsable paths.manifest := by
        rw [locate_eq_ok_iff ends, and_comm, ← namesEntry_file_iff accepted isManifest inside]
        constructor
        · rintro ⟨slot, aimed, -, -, placeEq⟩
          exact ⟨slot, aimed, (Place.mk.inj placeEq).1.symm⟩
        · rintro ⟨slot, aimed, rfl⟩
          obtain ⟨-, -, -, -, nameEq⟩ := (target_eq_slot_iff ends).mp aimed
          exact ⟨slot, aimed, nameEq ▸ isManifest.short, by simp [stands], rfl⟩
      simp only [found, and_assoc]

/-- A directory that is empty and was new is removed. -/
theorem discardDirectory_new (inside : Inside base paths name place tree)
    (ends : paths.directory.EndsWithName (Path.names root) (Path.ofText name)) :
    (∀ entry, tree.get? (entry :: place) = none) ∧
        LosesEmpty place tree (discardDirectory tree base paths true).1 ∨
      ¬ (∀ entry, tree.get? (entry :: place) = none) ∧
        (discardDirectory tree base paths true).1 = tree := by
  obtain ⟨slot, aimed, rfl⟩ := inside.names
  by_cases vacant : ∀ entry, tree.get? (entry :: slot.location) = none
  · left
    obtain ⟨-, -, -, -, nameEq⟩ := (target_eq_slot_iff ends).mp aimed
    have removed :
        tree.removeDirectory base paths.directory =
          .ok (tree.removeAll slot.name slot.parent) :=
      removeDirectory_eq_ok_iff.mpr
        ⟨slot, aimed, nameEq ▸ inside.short, inside.stands, isVacant_iff.mpr vacant, rfl⟩
    refine ⟨vacant, inside.stands, vacant, ?_⟩
    simp only [discardDirectory, if_true, removed]
    exact get?_removeAll_of_vacant vacant
  · right
    refine ⟨vacant, ?_⟩
    unfold discardDirectory
    rw [if_pos rfl]
    split
    · rename_i removed
      obtain ⟨otherSlot, otherAimed, -, -, empty, -⟩ := removeDirectory_eq_ok_iff.mp removed
      rw [aimed] at otherAimed
      cases otherAimed
      exact absurd (isVacant_iff.mp empty) vacant
    · rfl

/-! ## How attempts end -/

/-- What is left of an attempt before the directory is cleaned up, and whether it has succeeded. -/
inductive Ending (tree : FileTree) (paths : OutputPaths) (artifacts : Artifacts)
    (place : Location) : FileTree → Bool → Prop
  | failed {cleaned : FileTree}
      (refuses : Accepts tree paths.manifest (Path.ofText manifestFile :: place) →
        ¬ Accepts tree paths.pipeline (Path.ofText pipelineFile :: place))
      (view : DropsFile tree paths place cleaned) :
      Ending tree paths artifacts place cleaned false
  | complete {whole : FileTree}
      (accepts : Accepts tree paths.manifest (Path.ofText manifestFile :: place))
      (acceptsToo : Accepts tree paths.pipeline (Path.ofText pipelineFile :: place))
      (view : ∀ location, whole.get? location =
        if location = Path.ofText pipelineFile :: place then
          some (.file (Utf8.encode artifacts.pipeline))
        else if location = Path.ofText manifestFile :: place then
          some (.file (Utf8.encode artifacts.manifest))
        else tree.get? location) :
      Ending tree paths artifacts place whole true

structure Ends (tree : FileTree) (base : Base) (paths : OutputPaths) (artifacts : Artifacts)
    (place : Location) (cleaned : FileTree) (succeeded : Bool) : Prop where
  ending : Ending tree paths artifacts place cleaned succeeded
  outcome : ∀ isNew, (writeInto tree base paths artifacts isNew).outcome.isOk = succeeded
  files : ∀ isNew, (writeInto tree base paths artifacts isNew).files =
    if succeeded then cleaned else (discardDirectory cleaned base paths isNew).1

/-- Accepting one file has nothing to do with the other one. -/
theorem accepts_pipeline_iff {written : FileTree} {content : Bytes}
    (view : ∀ location, written.get? location =
      if location = Path.ofText manifestFile :: place then some (.file content)
      else tree.get? location) :
    Accepts written paths.pipeline (Path.ofText pipelineFile :: place) ↔
      Accepts tree paths.pipeline (Path.ofText pipelineFile :: place) := by
  have elsewhere : Path.ofText pipelineFile :: place ≠ Path.ofText manifestFile :: place := by
    intro same
    exact absurd (List.cons.inj same).1 (by decide)
  rw [Accepts, Accepts, OpenAt, OpenAt, view, if_neg elsewhere]

/-- Where the directory accepts both files, they are written, and nothing else changes. -/
theorem exists_writeInto (accepted : under root name = .ok paths)
    (inside : Inside base paths name place tree)
    (accepts : Accepts tree paths.manifest (Path.ofText manifestFile :: place))
    (acceptsToo : Accepts tree paths.pipeline (Path.ofText pipelineFile :: place))
    (artifacts : Artifacts) :
    ∃ whole, (∀ isNew, writeInto tree base paths artifacts isNew = ⟨whole, .ok (), []⟩) ∧
      ∀ location, whole.get? location =
        if location = Path.ofText pipelineFile :: place then
          some (.file (Utf8.encode artifacts.pipeline))
        else if location = Path.ofText manifestFile :: place then
          some (.file (Utf8.encode artifacts.manifest))
        else tree.get? location := by
  obtain ⟨written, wrote, view⟩ :=
    exists_writeFile accepted (isFile_manifest accepted) inside accepts
      (Utf8.encode artifacts.manifest)
  have insideThen := inside.of_keepsDirectories (keepsDirectories_of_writeFile wrote)
  obtain ⟨whole, wroteToo, viewToo⟩ :=
    exists_writeFile accepted (isFile_pipeline accepted) insideThen
      ((accepts_pipeline_iff view).mpr acceptsToo) (Utf8.encode artifacts.pipeline)
  refine ⟨whole, ?_, ?_⟩
  · intro isNew
    simp only [writeInto, wrote, wroteToo]
  · intro location
    rw [viewToo, view]

theorem exists_ends_of_accepts (accepted : under root name = .ok paths)
    (inside : Inside base paths name place tree)
    (accepts : Accepts tree paths.manifest (Path.ofText manifestFile :: place))
    (artifacts : Artifacts) :
    ∃ cleaned succeeded, Ends tree base paths artifacts place cleaned succeeded := by
  have isManifest := isFile_manifest accepted
  by_cases acceptsToo : Accepts tree paths.pipeline (Path.ofText pipelineFile :: place)
  · obtain ⟨whole, completed, view⟩ :=
      exists_writeInto accepted inside accepts acceptsToo artifacts
    refine ⟨whole, true, .complete accepts acceptsToo view, ?_, ?_⟩
    · intro isNew
      rw [completed]
      rfl
    · intro isNew
      rw [completed, if_pos rfl]
  · obtain ⟨written, wrote, view⟩ :=
      exists_writeFile accepted isManifest inside accepts (Utf8.encode artifacts.manifest)
    have insideThen := inside.of_keepsDirectories (keepsDirectories_of_writeFile wrote)
    obtain ⟨cause, failed⟩ :=
      writeFile_of_not_accepts accepted (isFile_pipeline accepted) insideThen
        (fun acceptsThen => acceptsToo ((accepts_pipeline_iff view).mp acceptsThen))
        (Utf8.encode artifacts.pipeline)
    have discarded (isNew : Bool) :
        writeInto tree base paths artifacts isNew =
          discard written base paths isNew (.file paths.pipeline cause) := by
      simp only [writeInto, wrote, failed]
    have drops :=
      dropsManifest_discardManifest_written (fileEnds_of_isFile isManifest) wrote
    refine ⟨(discardManifest written base paths).1, false,
      .failed (fun _ => acceptsToo) (dropsFile_of_dropsManifest accepted inside drops), ?_, ?_⟩
    · intro isNew
      rw [discarded]
      rfl
    · intro isNew
      rw [discarded, discard_files]
      rfl

theorem exists_ends (accepted : under root name = .ok paths)
    (inside : Inside base paths name place tree) (artifacts : Artifacts) :
    ∃ cleaned succeeded, Ends tree base paths artifacts place cleaned succeeded := by
  by_cases accepts : Accepts tree paths.manifest (Path.ofText manifestFile :: place)
  · exact exists_ends_of_accepts accepted inside accepts artifacts
  · obtain ⟨cause, failed⟩ :=
      writeFile_of_not_accepts accepted (isFile_manifest accepted) inside accepts
        (Utf8.encode artifacts.manifest)
    have discarded (isNew : Bool) :
        writeInto tree base paths artifacts isNew =
          discard tree base paths isNew (.file paths.manifest cause) := by
      simp only [writeInto, failed]
    have drops :=
      dropsManifest_discardManifest (fileEnds_of_isFile (isFile_manifest accepted)) tree base
    refine ⟨(discardManifest tree base paths).1, false,
      .failed (fun acceptsThen => absurd acceptsThen accepts)
        (dropsFile_of_dropsManifest accepted inside drops), ?_, ?_⟩
    · intro isNew
      rw [discarded]
      rfl
    · intro isNew
      rw [discarded, discard_files]
      rfl

theorem Ending.changesOnly (ending : Ending tree paths artifacts place cleaned succeeded) :
    ChangesOnly (fun location => place <:+ location ∧ location ≠ place) tree cleaned := by
  intro location differs
  have below (fileName : Text) :
      place <:+ Path.ofText fileName :: place ∧ Path.ofText fileName :: place ≠ place :=
    ⟨List.suffix_cons _ _, List.cons_ne_self _ _⟩
  cases ending with
  | failed refuses view =>
      rw [view] at differs
      split at differs
      · rename_i drops
        exact drops.1 ▸ below manifestFile
      · exact absurd rfl differs
  | complete accepts acceptsToo view =>
      rw [view] at differs
      split at differs
      · rename_i same
        exact same ▸ below pipelineFile
      · split at differs
        · rename_i same
          exact same ▸ below manifestFile
        · exact absurd rfl differs

theorem Ending.keepsDirectories (ending : Ending tree paths artifacts place cleaned succeeded) :
    KeepsDirectories tree cleaned := by
  intro location directory
  cases ending with
  | failed refuses view =>
      rw [view]
      split
      · rename_i drops
        exact absurd directory drops.2.2
      · exact directory
  | complete accepts acceptsToo view =>
      rw [view]
      split
      · rename_i same
        exact absurd (same ▸ directory) acceptsToo.2.notDirectory
      · split
        · rename_i same
          exact absurd (same ▸ directory) accepts.2.notDirectory
        · exact directory

/-- Two trees are the same at a place and below it. -/
def SameIn (place : Location) (one other : FileTree) : Prop :=
  ∀ location, place <:+ location → one.get? location = other.get? location

theorem sameIn_discardDirectory
    (ends : paths.directory.EndsWithName (Path.names root) (Path.ofText name))
    (inside : Inside base paths name place one)
    (otherInside : Inside otherBase paths name place other) (same : SameIn place one other) :
    SameIn place (discardDirectory one base paths true).1
      (discardDirectory other otherBase paths true).1 := by
  have sameVacant :
      (∀ entry, one.get? (entry :: place) = none) ↔ ∀ entry, other.get? (entry :: place) = none :=
    forall_congr' fun entry => by rw [same _ (List.suffix_cons entry place)]
  rcases discardDirectory_new inside ends with ⟨vacant, loses⟩ | ⟨occupied, unchanged⟩
  · rcases discardDirectory_new otherInside ends with ⟨-, otherLoses⟩ | ⟨otherOccupied, -⟩
    · intro location within
      rw [loses.get?_eq, otherLoses.get?_eq, same location within]
    · exact absurd (sameVacant.mp vacant) otherOccupied
  · rcases discardDirectory_new otherInside ends with ⟨otherVacant, -⟩ | ⟨-, otherUnchanged⟩
    · exact absurd (sameVacant.mpr otherVacant) occupied
    · rw [unchanged, otherUnchanged]
      exact same

/-- What is left depends on what stands at the place of the directory and below it. -/
theorem Ending.sameIn (ending : Ending one paths artifacts place cleaned succeeded)
    (otherEnding : Ending other paths artifacts place otherCleaned otherSucceeded)
    (same : SameIn place one other) :
    succeeded = otherSucceeded ∧ SameIn place cleaned otherCleaned := by
  have acceptsSame (file : Path) (fileName : Text) :
      Accepts one file (Path.ofText fileName :: place) ↔
        Accepts other file (Path.ofText fileName :: place) := by
    rw [Accepts, Accepts, OpenAt, OpenAt, same _ (List.suffix_cons _ _)]
  cases ending with
  | failed refuses view =>
      rw [acceptsSame, acceptsSame] at refuses
      cases otherEnding with
      | failed _ otherView =>
          refine ⟨rfl, ?_⟩
          intro location within
          rw [view, otherView, same location within]
      | complete otherAccepts otherAcceptsToo _ =>
          exact absurd otherAcceptsToo (refuses otherAccepts)
  | complete accepts acceptsToo view =>
      rw [acceptsSame] at accepts acceptsToo
      cases otherEnding with
      | failed otherRefuses _ =>
          exact absurd acceptsToo (otherRefuses accepts)
      | complete _ _ otherView =>
          refine ⟨rfl, ?_⟩
          intro location within
          rw [view, otherView, same location within]

/-- Something stands in the way of the directory, or its name is too long. -/
def Blocked (tree : FileTree) (name : Text) (place : Location) : Prop :=
  (Path.ofText name).length ≤ nameLimit →
    tree.get? place ≠ none ∧ tree.get? place ≠ some .directory

/-- The ways in which attempts go from a tree in which the directory has a place. -/
inductive Attempts (tree : FileTree) (base : Base) (paths : OutputPaths) (artifacts : Artifacts)
    (name : Text) (place : Location) : Prop
  | refused (blocked : Blocked tree name place)
      (outcome : ∀ isNew, (writeAs tree base paths artifacts isNew).outcome.isOk = false)
      (files : ∀ isNew, (writeAs tree base paths artifacts isNew).files = tree)
  | tried {prepared cleaned : FileTree} {succeeded : Bool} (free : ¬ Blocked tree name place)
      (view : ∀ location, prepared.get? location =
        if location = place then some .directory else tree.get? location)
      (inside : Inside base paths name place prepared)
      (ending : Ending prepared paths artifacts place cleaned succeeded)
      (outcome : ∀ isNew, (writeAs tree base paths artifacts isNew).outcome.isOk = succeeded)
      (kept : (writeAs tree base paths artifacts false).files = cleaned)
      (cleared : (writeAs tree base paths artifacts true).files =
        if succeeded then cleaned else (discardDirectory cleaned base paths true).1)

theorem attempts_of_prepared {prepared : FileTree} (accepted : under root name = .ok paths)
    (free : ¬ Blocked tree name place) (inside : Inside base paths name place prepared)
    (view : ∀ location, prepared.get? location =
      if location = place then some .directory else tree.get? location)
    (whole : tree.makeDirectories base paths.directory = (prepared, .ok ()))
    (artifacts : Artifacts) :
    Attempts tree base paths artifacts name place := by
  obtain ⟨cleaned, succeeded, ends⟩ := exists_ends accepted inside artifacts
  have asInto (isNew : Bool) :
      writeAs tree base paths artifacts isNew =
        writeInto prepared base paths artifacts isNew := by
    simp only [writeAs, whole]
  refine .tried free view inside ends.ending ?_ ?_ ?_
  · intro isNew
    rw [asInto, ends.outcome]
  · rw [asInto, ends.files]
    split <;> rfl
  · rw [asInto, ends.files]

theorem attempts_of_namesEntry (accepted : under root name = .ok paths)
    (names : tree.NamesEntry base paths.directory place) (artifacts : Artifacts) :
    Attempts tree base paths artifacts name place := by
  cases making_of_namesEntry (directoryEnds_of_under accepted) names with
  | @made prepared short vacant whole view =>
      have keeps : KeepsDirectories tree prepared := by
        intro location directory
        rw [view]
        split
        · rfl
        · exact directory
      have inside : Inside base paths name place prepared :=
        ⟨names.of_keepsDirectories keeps, short, (view place).trans (if_pos rfl)⟩
      exact attempts_of_prepared accepted (fun blocked => (blocked short).1 vacant) inside view
        whole artifacts
  | stands short directory whole =>
      have view (location : Location) :
          tree.get? location =
            if location = place then some .directory else tree.get? location := by
        split
        · rename_i same
          rw [same, directory]
        · rfl
      exact attempts_of_prepared accepted (fun blocked => (blocked short).2 directory)
        ⟨names, short, directory⟩ view whole artifacts
  | refused blocked whole =>
      refine .refused blocked ?_ ?_
      · intro isNew
        simp only [writeAs, whole]
        rfl
      · intro isNew
        simp only [writeAs, whole]

section Attempts

variable (accepted : under root name = .ok paths)
variable (names : tree.NamesEntry base paths.directory place) (artifacts : Artifacts)

include accepted names

theorem outcome_writeAs (isNew otherIsNew : Bool) :
    (writeAs tree base paths artifacts isNew).outcome.isOk =
      (writeAs tree base paths artifacts otherIsNew).outcome.isOk := by
  cases attempts_of_namesEntry accepted names artifacts with
  | refused blocked outcome files =>
      rw [outcome, outcome]
  | tried free view inside ending outcome kept cleared =>
      rw [outcome, outcome]

theorem keepsDirectories_writeAs :
    KeepsDirectories tree (writeAs tree base paths artifacts false).files := by
  intro location directory
  cases attempts_of_namesEntry accepted names artifacts with
  | refused blocked outcome files =>
      rw [files]
      exact directory
  | tried free view inside ending outcome kept cleared =>
      rw [kept]
      apply ending.keepsDirectories
      rw [view]
      split
      · rfl
      · exact directory

/-- Taking the directory for new makes a difference at most if it is empty in the end. -/
theorem writeAs_new :
    (writeAs tree base paths artifacts true).files =
        (writeAs tree base paths artifacts false).files ∨
      ¬ Blocked tree name place ∧
        LosesEmpty place (writeAs tree base paths artifacts false).files
          (writeAs tree base paths artifacts true).files := by
  cases attempts_of_namesEntry accepted names artifacts with
  | refused blocked outcome files =>
      rw [files, files]
      exact .inl rfl
  | tried free view inside ending outcome kept cleared =>
      have insideThen := inside.of_keepsDirectories ending.keepsDirectories
      rw [kept, cleared]
      split
      · exact .inl rfl
      · rcases discardDirectory_new insideThen (directoryEnds_of_under accepted) with
          ⟨-, loses⟩ | ⟨-, same⟩
        · exact .inr ⟨free, loses⟩
        · exact .inl same

/-- Only at the place of the directory can it make a difference whether it is taken for new. -/
theorem get?_writeAs_of_ne (isNew otherIsNew : Bool) {location : Location}
    (different : location ≠ place) :
    (writeAs tree base paths artifacts isNew).files.get? location =
      (writeAs tree base paths artifacts otherIsNew).files.get? location := by
  have sameAsKept (flag : Bool) :
      (writeAs tree base paths artifacts flag).files.get? location =
        (writeAs tree base paths artifacts false).files.get? location := by
    cases flag with
    | false =>
        rfl
    | true =>
        rcases writeAs_new accepted names artifacts with same | ⟨-, loses⟩
        · rw [same]
        · rw [loses.get?_eq, if_neg different]
  rw [sameAsKept, sameAsKept otherIsNew]

/-- An attempt only loses a directory if it takes it for new although it has been there. -/
theorem losesEmpty_of_not_keeps
    (lost : ¬ KeepsDirectories tree (writeAs tree base paths artifacts isNew).files) :
    isNew = true ∧ (Path.ofText name).length ≤ nameLimit ∧ tree.get? place = some .directory ∧
      LosesEmpty place (writeAs tree base paths artifacts false).files
        (writeAs tree base paths artifacts true).files := by
  have keepsUnlessNew := keepsDirectories_writeAs accepted names artifacts
  cases isNew with
  | false =>
      exact absurd keepsUnlessNew lost
  | true =>
      rcases writeAs_new accepted names artifacts with same | ⟨free, loses⟩
      · rw [same] at lost
        exact absurd keepsUnlessNew lost
      · have short : (Path.ofText name).length ≤ nameLimit := by
          by_contra long
          exact free fun short => absurd short long
        have stood : tree.get? place = some .directory := by
          by_contra vacant
          apply lost
          intro location directory
          have different : location ≠ place := by
            rintro rfl
            exact vacant directory
          rw [loses.get?_eq, if_neg different]
          exact keepsUnlessNew location directory
        exact ⟨rfl, short, stood, loses⟩

theorem changesOnly_writeAs (isNew : Bool) :
    ChangesOnly (fun location => place <:+ location) tree
      (writeAs tree base paths artifacts isNew).files := by
  have unlessNew :
      ChangesOnly (fun location => place <:+ location) tree
        (writeAs tree base paths artifacts false).files := by
    cases attempts_of_namesEntry accepted names artifacts with
    | refused blocked outcome files =>
        rw [files]
        exact .refl _ tree
    | @tried prepared _ _ free view inside ending outcome kept cleared =>
        have made : ChangesOnly (fun location => place <:+ location) tree prepared := by
          intro location differs
          rw [view] at differs
          split at differs
          · rename_i same
            exact same ▸ List.suffix_rfl
          · exact absurd rfl differs
        rw [kept]
        exact made.trans (ending.changesOnly.mono fun _ below => below.1)
  cases isNew with
  | false =>
      exact unlessNew
  | true =>
      rcases writeAs_new accepted names artifacts with same | ⟨-, loses⟩
      · rw [same]
        exact unlessNew
      · refine unlessNew.trans ?_
        intro location differs
        rw [loses.get?_eq] at differs
        split at differs
        · rename_i same
          exact same ▸ List.suffix_rfl
        · exact absurd rfl differs

end Attempts

/-- From two trees that are the same in the directory, attempts have the same outcome and leave the
same in it. -/
theorem sameIn_writeAs (accepted : under root name = .ok paths)
    (names : one.NamesEntry base paths.directory place)
    (otherNames : other.NamesEntry otherBase paths.directory place)
    (same : SameIn place one other) (artifacts : Artifacts) (isNew : Bool) :
    (writeAs one base paths artifacts isNew).outcome.isOk =
        (writeAs other otherBase paths artifacts isNew).outcome.isOk ∧
      SameIn place (writeAs one base paths artifacts isNew).files
        (writeAs other otherBase paths artifacts isNew).files := by
  have sameBlocked : Blocked one name place ↔ Blocked other name place := by
    rw [Blocked, Blocked, same place List.suffix_rfl]
  cases attempts_of_namesEntry accepted names artifacts with
  | refused blocked outcome files =>
      cases attempts_of_namesEntry accepted otherNames artifacts with
      | refused otherBlocked otherOutcome otherFiles =>
          rw [outcome, otherOutcome, files, otherFiles]
          exact ⟨rfl, same⟩
      | tried otherFree =>
          exact absurd (sameBlocked.mp blocked) otherFree
  | @tried prepared cleaned _ free view inside ending outcome kept cleared =>
      cases attempts_of_namesEntry accepted otherNames artifacts with
      | refused otherBlocked _ _ =>
          exact absurd (sameBlocked.mpr otherBlocked) free
      | @tried otherPrepared otherCleaned _ otherFree otherView otherInside otherEnding
            otherOutcome otherKept otherCleared =>
          have samePrepared : SameIn place prepared otherPrepared := by
            intro location within
            rw [view, otherView, same location within]
          obtain ⟨sameOutcome, sameCleaned⟩ := ending.sameIn otherEnding samePrepared
          rw [outcome, otherOutcome]
          refine ⟨sameOutcome, ?_⟩
          cases isNew with
          | false =>
              rw [kept, otherKept]
              exact sameCleaned
          | true =>
              rw [cleared, otherCleared, sameOutcome]
              split
              · exact sameCleaned
              · exact sameIn_discardDirectory (directoryEnds_of_under accepted)
                  (inside.of_keepsDirectories ending.keepsDirectories)
                  (otherInside.of_keepsDirectories otherEnding.keepsDirectories) sameCleaned

end RunManifest.OutputPaths
