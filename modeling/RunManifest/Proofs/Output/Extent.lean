import RunManifest.Proofs.Output.Completed
import RunManifest.Proofs.Output.Leftovers

/-!
# How far an attempt to write reaches

An attempt to write changes nothing but the two files, their directory and the directories that are
missing on the way to it, whether it succeeds or fails and however far it gets.
-/

namespace RunManifest

namespace FileTree

variable {tree middle later : FileTree} {base : Base} {path : Path} {content : Bytes}

/-- A later tree differs from a tree at most at some locations. -/
def ChangesOnly (may : Location → Prop) (tree later : FileTree) : Prop :=
  ∀ location, later.get? location ≠ tree.get? location → may location

variable {may allowed : Location → Prop}

theorem ChangesOnly.refl (may : Location → Prop) (tree : FileTree) : ChangesOnly may tree tree :=
  fun _ differs => absurd rfl differs

theorem ChangesOnly.trans (first : ChangesOnly may tree middle)
    (second : ChangesOnly may middle later) : ChangesOnly may tree later := by
  intro location differs
  by_cases same : later.get? location = middle.get? location
  · exact first location (same ▸ differs)
  · exact second location same

theorem ChangesOnly.mono (changes : ChangesOnly may tree later)
    (allows : ∀ location, may location → allowed location) : ChangesOnly allowed tree later :=
  fun location differs => allows location (changes location differs)

/-- An operation changes at most the entry that its path names, and makes no directory. -/
structure ChangesEntry (base : Base) (path : Path) (tree later : FileTree) : Prop where
  changes : ChangesOnly (tree.NamesEntry base path) tree later
  addsNoDirectory : KeepsDirectories later tree

theorem ChangesEntry.refl (base : Base) (path : Path) (tree : FileTree) :
    ChangesEntry base path tree tree :=
  ⟨ChangesOnly.refl _ tree, fun _ directory => directory⟩

theorem changesEntry_of_writeFile (wrote : tree.writeFile base path content = .ok later) :
    ChangesEntry base path tree later := by
  obtain ⟨slot, aimed, -, -, fits, rfl⟩ := writeFile_eq_ok_iff.mp wrote
  constructor
  · intro location differs
    rw [get?_put] at differs
    by_cases same : location = slot.location
    · exact ⟨slot, aimed, same.symm⟩
    · exact absurd (if_neg same) differs
  · intro location directory
    rw [get?_put] at directory
    split at directory
    · cases directory
    · exact directory

theorem changesEntry_of_removeAll {slot : Slot tree}
    (aimed : tree.target base path = .ok (.slot slot))
    (view : ∀ location, later.get? location =
      if location = slot.location then none else tree.get? location) :
    ChangesEntry base path tree later := by
  constructor
  · intro location differs
    rw [view] at differs
    by_cases same : location = slot.location
    · exact ⟨slot, aimed, same.symm⟩
    · exact absurd (if_neg same) differs
  · intro location directory
    rw [view] at directory
    split at directory
    · cases directory
    · exact directory

theorem changesEntry_of_removeFile (removed : tree.removeFile base path = .ok later) :
    ChangesEntry base path tree later := by
  obtain ⟨slot, aimed, -, -, ⟨content, stands⟩, rfl⟩ := removeFile_eq_ok_iff.mp removed
  exact changesEntry_of_removeAll aimed (get?_removeAll_of_vacant (get?_below_file stands))

theorem changesEntry_of_removeDirectory (removed : tree.removeDirectory base path = .ok later) :
    ChangesEntry base path tree later := by
  obtain ⟨slot, aimed, -, view⟩ := get?_of_removeDirectory removed
  exact changesEntry_of_removeAll aimed view

end FileTree

namespace OutputPaths

open FileTree

variable {files prepared middle later : FileTree} {base : Base} {root : Path} {name : Text}
variable {paths : OutputPaths} {artifacts : Artifacts}

theorem changesEntry_discardManifest (files : FileTree) (base : Base) (paths : OutputPaths) :
    ChangesEntry base paths.manifest files (discardManifest files base paths).1 := by
  unfold discardManifest
  split
  · split
    · exact changesEntry_of_removeFile ‹_›
    · exact ChangesEntry.refl base paths.manifest files
  · exact ChangesEntry.refl base paths.manifest files

theorem changesEntry_discardDirectory
    (files : FileTree) (base : Base) (paths : OutputPaths) (isNew : Bool) :
    ChangesEntry base paths.directory files (discardDirectory files base paths isNew).1 := by
  unfold discardDirectory
  split
  · split
    · exact changesEntry_of_removeDirectory ‹_›
    · exact ChangesEntry.refl base paths.directory files
  · exact ChangesEntry.refl base paths.directory files

/-- The locations that an attempt to write may change.  Where a path leads is told once the
directory is there with all on the way to it. -/
inductive MayChange (files : FileTree) (base : Base) (paths : OutputPaths) (location : Location) :
    Prop
  | manifest
      (names : (files.makeDirectories base paths.directory).1.NamesEntry base paths.manifest location)
  | pipeline
      (names : (files.makeDirectories base paths.directory).1.NamesEntry base paths.pipeline location)
  | directory
      (names :
        (files.makeDirectories base paths.directory).1.NamesEntry base paths.directory location)
  | missing {ancestor : Path} (above : ancestor ∈ paths.directory.parents)
      (absent : files.get? location = none)
      (names : (files.makeDirectories base paths.directory).1.NamesEntry base ancestor location)

theorem changesOnly_makeDirectories (files : FileTree) (base : Base) (paths : OutputPaths) :
    ChangesOnly (MayChange files base paths) files
      (files.makeDirectories base paths.directory).1 := by
  intro location differs
  rcases addsNamed_makeDirectories files base paths.directory location with
    same | ⟨absent, -, path, member, names⟩
  · exact absurd same differs
  · rcases List.mem_cons.mp member with rfl | above
    · exact .directory names
    · exact .missing above absent names

/-- How far an attempt to write has got: its changes are allowed, and it has made no directory
beyond those on the way to the files. -/
structure Reached (files : FileTree) (base : Base) (paths : OutputPaths) (later : FileTree) :
    Prop where
  changes : ChangesOnly (MayChange files base paths) files later
  noFurther : KeepsDirectories later (files.makeDirectories base paths.directory).1

theorem reached_makeDirectories (files : FileTree) (base : Base) (paths : OutputPaths) :
    Reached files base paths (files.makeDirectories base paths.directory).1 where
  changes := changesOnly_makeDirectories files base paths
  noFurther := fun _ directory => directory

/-- One more change of an entry that may be changed.  As no directory has been added, its path leads
where it led when the directories had just been made. -/
theorem Reached.step (reached : Reached files base paths middle) {path : Path}
    (entry : ChangesEntry base path middle later)
    (allows : ∀ location,
      (files.makeDirectories base paths.directory).1.NamesEntry base path location →
        MayChange files base paths location) :
    Reached files base paths later where
  changes := by
    have allowed : ChangesOnly (MayChange files base paths) middle later :=
      entry.changes.mono fun location names =>
        allows location (names.of_keepsDirectories reached.noFurther)
    exact reached.changes.trans allowed
  noFurther := fun location directory =>
    reached.noFurther location (entry.addsNoDirectory location directory)

theorem Reached.discard (reached : Reached files base paths middle) (isNew : Bool)
    (failure : WriteFailure) :
    Reached files base paths (discard middle base paths isNew failure).files := by
  have withoutManifest :=
    reached.step (changesEntry_discardManifest middle base paths) fun _ => .manifest
  exact withoutManifest.step (changesEntry_discardDirectory _ base paths isNew) fun _ => .directory

theorem reached_write (files : FileTree) (base : Base) (paths : OutputPaths)
    (artifacts : Artifacts) :
    Reached files base paths (paths.write files base artifacts).files := by
  -- However far the attempt gets, it goes on from the tree in which the directories are made.
  have start := reached_makeDirectories files base paths
  have course := course_write files base paths artifacts
  generalize paths.write files base artifacts = report at course ⊢
  cases course with
  | directoryFails made =>
      rw [made] at start
      exact start
  | manifestFails made failed =>
      rw [made] at start
      exact start.discard _ _
  | pipelineFails made wrote failed =>
      rw [made] at start
      have written := start.step (changesEntry_of_writeFile wrote) fun _ => .manifest
      exact written.discard _ _
  | completes made wrote wroteToo =>
      rw [made] at start
      have written := start.step (changesEntry_of_writeFile wrote) fun _ => .manifest
      exact written.step (changesEntry_of_writeFile wroteToo) fun _ => .pipeline

/-! ## Where that is -/

/-- The entry with a name in a directory without steps up stands below the directory. -/
theorem location_eq_of_namesEntry_join {tree : FileTree} {directory : Path} {location : Location}
    (plain : directory.IsPlain) (accepted : Name.isComponent name = true)
    (names : tree.NamesEntry base (Path.join directory (Path.ofText name)) location) :
    location = Path.ofText name :: (Path.names directory).reverse := by
  have joinedPlain := plain.join (Name.isEntryName_of_isComponent accepted)
  rw [names.location_eq joinedPlain, (Path.endsWithName_join_ofText directory accepted).names_eq,
    List.reverse_append]
  rfl

/-- Under a root without steps up, what stood before can only be changed where the names of the
directory and of the two files say. -/
theorem MayChange.location_eq (accepted : under root name = .ok paths) (plain : root.IsPlain)
    {location : Location} (may : MayChange files base paths location)
    (stood : files.get? location ≠ none) :
    let directory := Path.ofText name :: (Path.names root).reverse
    location = directory ∨ location = Path.ofText manifestFile :: directory ∨
      location = Path.ofText pipelineFile :: directory := by
  obtain ⟨component, directoryEq, manifestEq, pipelineEq⟩ := under_eq_ok_iff.mp accepted
  have directoryPlain : paths.directory.IsPlain := by
    rw [directoryEq]
    exact plain.join (Name.isEntryName_of_isComponent component)
  have directoryNames :
      (Path.names paths.directory).reverse = Path.ofText name :: (Path.names root).reverse := by
    rw [(directoryEnds_of_under accepted).names_eq, List.reverse_append]
    rfl
  rw [← directoryNames]
  cases may with
  | manifest names =>
      rw [manifestEq] at names
      exact .inr (.inl (location_eq_of_namesEntry_join directoryPlain (by decide) names))
  | pipeline names =>
      rw [pipelineEq] at names
      exact .inr (.inr (location_eq_of_namesEntry_join directoryPlain (by decide) names))
  | directory names =>
      exact .inl (names.location_eq directoryPlain)
  | missing above absent names =>
      exact absurd absent stood

end OutputPaths

end RunManifest
