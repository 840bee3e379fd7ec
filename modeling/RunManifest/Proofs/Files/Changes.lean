import RunManifest.Proofs.Files.Following

/-!
# What operations change

An operation that succeeds changes what stands in the slot of its path and nothing else.  The
lemmas `*_eq_ok_iff` say when it succeeds, and the `get?` lemmas what stands in the tree afterwards.
Making directories together with those on the way to them only adds directories, whether it
succeeds or not.
-/

namespace RunManifest.FileTree

open Outcomes

variable {tree middle later : FileTree} {base : Base} {path : Path} {content : Bytes} {file : File}

/-- An operation that needs a slot succeeds if the path has one and the rest can be done there. -/
theorem target_bind_eq_ok_iff
    {next : Target tree → Except SystemError FileTree}
    (unnamedFails : ∃ cause, next .unnamed = .error cause)
    (nowhereFails : ∃ cause, next .nowhere = .error cause) :
    tree.target base path >>= next = .ok later ↔
      ∃ slot : Slot tree,
        tree.target base path = .ok (.slot slot) ∧ next (.slot slot) = .ok later := by
  rw [bind_eq_ok_iff]
  constructor
  · rintro ⟨target, aimed, done⟩
    cases target with
    | unnamed =>
        obtain ⟨cause, fails⟩ := unnamedFails
        rw [fails] at done
        cases done
    | nowhere =>
        obtain ⟨cause, fails⟩ := nowhereFails
        rw [fails] at done
        cases done
    | slot slot =>
        exact ⟨slot, aimed, done⟩
  · rintro ⟨slot, aimed, done⟩
    exact ⟨.slot slot, aimed, done⟩

/-- Nothing that stands at a location keeps the program from writing a file there. -/
def OpenAt (tree : FileTree) (location : Location) : Prop :=
  (tree.get? location).bind Entry.writeRefusal? = none

theorem OpenAt.of_content {location : Location}
    (stands : tree.get? location = some (.file content)) : tree.OpenAt location := by
  rw [OpenAt, stands]
  rfl

theorem OpenAt.notDirectory {location : Location} (granted : tree.OpenAt location) :
    tree.get? location ≠ some .directory := by
  intro directory
  rw [OpenAt, directory] at granted
  cases granted

theorem writeFile_eq_ok_iff :
    tree.writeFile base path content = .ok later ↔
      ∃ slot : Slot tree, tree.target base path = .ok (.slot slot) ∧
        path.endsWithSlash = false ∧ slot.name.length ≤ nameLimit ∧
        ∃ granted : tree.OpenAt slot.location,
          later = tree.put slot (.file content) (.inr granted.notDirectory) := by
  rw [writeFile, storeFile, target_bind_eq_ok_iff ⟨_, rfl⟩ ⟨_, rfl⟩]
  refine exists_congr fun slot => and_congr_right fun _ => ?_
  constructor
  · intro written
    simp only at written
    split at written
    · cases written
    · rename_i separator
      split at written
      · cases written
      · split at written
        · cases written
        · split at written
          · cases written
          · cases written
            exact ⟨by simpa using separator, Nat.le_of_not_lt ‹_›, ‹_›, rfl⟩
  · rintro ⟨separator, short, granted, rfl⟩
    simp only
    rw [if_neg (by simp [separator]), if_neg (Nat.not_lt.mpr short), dif_neg granted.notDirectory,
      granted]
    rfl

theorem removeFile_eq_ok_iff :
    tree.removeFile base path = .ok later ↔
      ∃ slot : Slot tree, tree.target base path = .ok (.slot slot) ∧
        path.endsWithSlash = false ∧ slot.name.length ≤ nameLimit ∧
        (∃ file, tree.get? slot.location = some (.file file)) ∧
        later = tree.removeAll slot.name slot.parent := by
  rw [removeFile, target_bind_eq_ok_iff ⟨_, rfl⟩ ⟨_, rfl⟩]
  refine exists_congr fun slot => and_congr_right fun _ => ?_
  constructor
  · intro removed
    simp only at removed
    split at removed
    · cases removed
    · split at removed
      · cases removed
      · cases removed
      · split at removed
        · cases removed
        · rename_i separator
          cases removed
          exact ⟨by simpa using separator, Nat.le_of_not_lt ‹_›, ⟨_, ‹_›⟩, rfl⟩
  · rintro ⟨separator, short, ⟨file, stands⟩, rfl⟩
    simp only
    rw [if_neg (Nat.not_lt.mpr short), stands]
    simp only [separator, Bool.false_eq_true, if_false]
    rfl

theorem makeDirectory_eq_ok_iff :
    tree.makeDirectory base path = .ok later ↔
      ∃ slot : Slot tree, tree.target base path = .ok (.slot slot) ∧
        slot.name.length ≤ nameLimit ∧ tree.get? slot.location = none ∧
        later = tree.put slot .directory (.inl rfl) := by
  rw [makeDirectory, target_bind_eq_ok_iff ⟨_, rfl⟩ ⟨_, rfl⟩]
  refine exists_congr fun slot => and_congr_right fun _ => ?_
  constructor
  · intro made
    simp only at made
    split at made
    · cases made
    · split at made
      · cases made
        exact ⟨Nat.le_of_not_lt ‹_›, ‹_›, rfl⟩
      · cases made
  · rintro ⟨short, vacant, rfl⟩
    simp only
    rw [if_neg (Nat.not_lt.mpr short), if_pos vacant]
    rfl

theorem removeDirectory_eq_ok_iff :
    tree.removeDirectory base path = .ok later ↔
      ∃ slot : Slot tree, tree.target base path = .ok (.slot slot) ∧
        slot.name.length ≤ nameLimit ∧ tree.get? slot.location = some .directory ∧
        tree.isVacant slot.location = true ∧
        later = tree.removeAll slot.name slot.parent := by
  rw [removeDirectory, target_bind_eq_ok_iff ⟨_, rfl⟩ ⟨_, rfl⟩]
  refine exists_congr fun slot => and_congr_right fun _ => ?_
  constructor
  · intro removed
    simp only at removed
    split at removed
    · cases removed
    · split at removed
      · cases removed
      · cases removed
      · split at removed
        · cases removed
          exact ⟨Nat.le_of_not_lt ‹_›, ‹_›, ‹_›, rfl⟩
        · cases removed
  · rintro ⟨short, stands, vacant, rfl⟩
    simp only
    rw [if_neg (Nat.not_lt.mpr short), stands]
    simp only [vacant, if_true]
    rfl

theorem get?_below_vacant
    {outer inner : Location} (vacant : ∀ name, tree.get? (name :: outer) = none)
    (within : outer <:+ inner) (different : inner ≠ outer) :
    tree.get? inner = none := by
  obtain ⟨front, rfl⟩ := within
  rcases List.eq_nil_or_concat front with rfl | ⟨initial, name, rfl⟩
  · exact absurd rfl different
  · rw [List.concat_eq_append, List.append_assoc, List.singleton_append]
    cases found : tree.get? (initial ++ name :: outer) with
    | none =>
        rfl
    | some entry =>
        have present : tree.get? (initial ++ name :: outer) ≠ none := by
          simp [found]
        by_cases whole : name :: outer = initial ++ name :: outer
        · rw [← whole, vacant name] at found
          cases found
        · have directory := get?_of_suffix present ⟨initial, rfl⟩ whole
          rw [vacant name] at directory
          cases directory

theorem get?_below_file
    {location : Location} (stands : tree.get? location = some (.file file)) (name : Bytes) :
    tree.get? (name :: location) = none := by
  cases found : tree.get? (name :: location) with
  | none =>
      rfl
  | some entry =>
      have present : tree.get? (name :: location) ≠ none := by
        simp [found]
      have directory := get?_parent present
      rw [stands] at directory
      cases directory

/-- Where nothing stands below a slot, removing what is in the slot removes nothing else. -/
theorem get?_removeAll_of_vacant
    {slot : Slot tree} (vacant : ∀ name, tree.get? (name :: slot.location) = none)
    (location : Location) :
    (tree.removeAll slot.name slot.parent).get? location =
      if location = slot.location then none else tree.get? location := by
  rw [get?_removeAll]
  change (if slot.location <:+ location then none else _) = _
  by_cases same : location = slot.location
  · rw [if_pos same, if_pos (same ▸ List.suffix_rfl)]
  · rw [if_neg same]
    split
    · exact (get?_below_vacant vacant ‹_› same).symm
    · rfl

theorem get?_of_removeDirectory (removed : tree.removeDirectory base path = .ok later) :
    ∃ slot : Slot tree, tree.target base path = .ok (.slot slot) ∧
      tree.get? slot.location = some .directory ∧
      ∀ location, later.get? location =
        if location = slot.location then none else tree.get? location := by
  obtain ⟨slot, aimed, -, stands, vacant, rfl⟩ := removeDirectory_eq_ok_iff.mp removed
  exact ⟨slot, aimed, stands, get?_removeAll_of_vacant (isVacant_iff.mp vacant)⟩

/-! ## What is kept -/

theorem keepsDirectories_put_file
    {slot : Slot tree} (fits : tree.get? slot.location ≠ some .directory) (file : File) :
    KeepsDirectories tree (tree.put slot (.file file) (.inr fits)) := by
  intro location directory
  have different : location ≠ slot.location := by
    rintro rfl
    exact fits directory
  rw [get?_put, if_neg different, directory]

/-- A later tree holds what a tree holds, and beyond that only directories. -/
def AddsDirectories (tree later : FileTree) : Prop :=
  ∀ location, later.get? location = tree.get? location ∨
    tree.get? location = none ∧ later.get? location = some .directory

theorem AddsDirectories.get?_eq
    (adds : AddsDirectories tree later) {location : Location} {entry : Entry}
    (stands : tree.get? location = some entry) :
    later.get? location = some entry := by
  rcases adds location with same | ⟨absent, _⟩
  · rw [same, stands]
  · rw [stands] at absent
    cases absent

theorem AddsDirectories.keepsDirectories (adds : AddsDirectories tree later) :
    KeepsDirectories tree later :=
  fun _ directory => adds.get?_eq directory

/-- A directory that is made is an entry that its path names. -/
theorem get?_of_makeDirectory (made : tree.makeDirectory base path = .ok later)
    (location : Location) :
    later.get? location = tree.get? location ∨
      tree.get? location = none ∧ later.get? location = some .directory ∧
        tree.NamesEntry base path location := by
  obtain ⟨slot, aimed, -, vacant, rfl⟩ := makeDirectory_eq_ok_iff.mp made
  rw [get?_put]
  by_cases same : location = slot.location
  · exact .inr ⟨same ▸ vacant, if_pos same, slot, aimed, same.symm⟩
  · exact .inl (if_neg same)

theorem addsDirectories_of_makeDirectory (made : tree.makeDirectory base path = .ok later) :
    AddsDirectories tree later := by
  intro location
  rcases get?_of_makeDirectory made location with same | ⟨absent, added, -⟩
  · exact .inl same
  · exact .inr ⟨absent, added⟩

/-- What a later tree has beyond a tree are directories, each of which one of some paths names. -/
def AddsNamed (base : Base) (paths : List Path) (tree later : FileTree) : Prop :=
  ∀ location, later.get? location = tree.get? location ∨
    tree.get? location = none ∧ later.get? location = some .directory ∧
      ∃ path ∈ paths, later.NamesEntry base path location

theorem AddsNamed.refl (base : Base) (paths : List Path) (tree : FileTree) :
    AddsNamed base paths tree tree :=
  fun _ => .inl rfl

theorem AddsNamed.addsDirectories {paths : List Path} (adds : AddsNamed base paths tree later) :
    AddsDirectories tree later := by
  intro location
  rcases adds location with same | ⟨absent, added, -⟩
  · exact .inl same
  · exact .inr ⟨absent, added⟩

theorem AddsNamed.cons {paths : List Path} (adds : AddsNamed base paths tree later) (path : Path) :
    AddsNamed base (path :: paths) tree later := by
  intro location
  rcases adds location with same | ⟨absent, added, named, member, names⟩
  · exact .inl same
  · exact .inr ⟨absent, added, named, List.mem_cons_of_mem path member, names⟩

/-- Another directory is made behind those that have been made. -/
theorem AddsNamed.makeDirectory {paths : List Path} (adds : AddsNamed base paths tree middle)
    (made : middle.makeDirectory base path = .ok later) :
    AddsNamed base (path :: paths) tree later := by
  have keeps := (addsDirectories_of_makeDirectory made).keepsDirectories
  intro location
  rcases get?_of_makeDirectory made location with same | ⟨absent, added, names⟩
  · rw [same]
    rcases adds.cons path location with sameBefore | ⟨absentBefore, addedBefore, named⟩
    · exact .inl sameBefore
    · obtain ⟨before, member, names⟩ := named
      exact .inr ⟨absentBefore, addedBefore, before, member, names.of_keepsDirectories keeps⟩
  · rcases adds location with sameBefore | ⟨absentBefore, addedBefore, -⟩
    · exact .inr ⟨sameBefore ▸ absent, added, path, List.mem_cons_self,
        names.of_keepsDirectories keeps⟩
    · rw [absent] at addedBefore
      cases addedBefore

theorem addsNamed_makeWithParents (tree : FileTree) (base : Base) (paths : List Path) :
    AddsNamed base paths tree (tree.makeWithParents base paths).1 := by
  induction paths with
  | nil =>
      exact AddsNamed.refl base [] tree
  | cons path parents inductionHypothesis =>
      unfold makeWithParents
      split
      · exact AddsNamed.refl base _ tree
      · split
        · exact (AddsNamed.refl base parents tree).makeDirectory ‹_›
        · split
          · rename_i prepared cause outcome
            rw [outcome] at inductionHypothesis
            exact inductionHypothesis.cons path
          · rename_i prepared outcome
            rw [outcome] at inductionHypothesis
            split
            · exact inductionHypothesis.makeDirectory ‹_›
            · exact inductionHypothesis.cons path
        · exact AddsNamed.refl base _ tree

theorem addsNamed_makeDirectories (tree : FileTree) (base : Base) (path : Path) :
    AddsNamed base (path :: path.parents) tree (tree.makeDirectories base path).1 :=
  addsNamed_makeWithParents tree base (path :: path.parents)

theorem addsDirectories_makeDirectories (tree : FileTree) (base : Base) (path : Path) :
    AddsDirectories tree (tree.makeDirectories base path).1 :=
  (addsNamed_makeDirectories tree base path).addsDirectories

end RunManifest.FileTree
