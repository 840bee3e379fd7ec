import RunManifest.Proofs.Files.Changes

/-!
# What stands already

A path that leads to something can be followed in every later tree that keeps the directories.  To
make a directory that is there, and to write into a file what it holds, leaves the tree as it is.
-/

namespace RunManifest.FileTree

open Outcomes

variable {tree later : FileTree} {base : Base} {path : Path} {content : Bytes} {file : File}

theorem endsWithName_of_target
    {slot : Slot tree} (aimed : tree.target base path = .ok (.slot slot))
    (noSeparator : path.endsWithSlash = false) :
    ∃ before, path.EndsWithName before slot.name := by
  obtain ⟨before, _, namesEq, notDot, notDotDot, _⟩ := target_eq_slot_iff_reach.mp aimed
  exact ⟨before, namesEq, noSeparator, notDot, notDotDot⟩

theorem enter_dot {here : Place} (directory : tree.entryAt? here = some .directory) :
    tree.enter here Path.dot = .ok here := by
  simp [enter, directory]

/-- A directory is found in the slot of its path, also if a separator stands behind the path. -/
theorem locate_of_target
    {slot : Slot tree} (aimed : tree.target base path = .ok (.slot slot))
    (short : slot.name.length ≤ nameLimit) (stands : tree.get? slot.location = some .directory) :
    tree.locate base path = .ok { location := slot.location } := by
  obtain ⟨before, here, namesEq, notDot, notDotDot, reached, stays, parentEq⟩ :=
    target_eq_slot_iff_reach.mp aimed
  rw [reach, bind_eq_ok_iff] at reached
  obtain ⟨start, started, walked⟩ := reached
  have inside : tree.get? here.location = some .directory := by
    rw [← parentEq]
    exact slot.inside
  have locationEq : slot.location = slot.name :: here.location := by
    rw [Slot.location, parentEq]
  have entered : tree.enter here slot.name = .ok { location := slot.location } := by
    apply (enter_eq_ok_iff notDot notDotDot).mpr
    rw [← locationEq]
    exact ⟨stays, inside, short, by simp [stands], rfl⟩
  have standsThere : tree.entryAt? { location := slot.location } = some .directory := by
    rw [entryAt?_of_not_removed rfl]
    exact stands
  have walkedOn :
      tree.walk start (Path.names path) = .ok { location := slot.location } := by
    rw [namesEq, walk, List.foldlM_append, bind_eq_ok_iff]
    refine ⟨here, walked, ?_⟩
    rw [List.foldlM_cons, entered]
    rfl
  rw [locate, bind_eq_ok_iff]
  refine ⟨start, started, ?_⟩
  split
  · rw [walk, List.foldlM_append, bind_eq_ok_iff]
    refine ⟨_, walkedOn, ?_⟩
    rw [List.foldlM_cons, enter_dot standsThere]
    rfl
  · rw [List.append_nil]
    exact walkedOn

/-- A path to a directory leads to the same place in a later tree. -/
theorem locate_of_keepsDirectories
    (keeps : KeepsDirectories tree later) {place : Place}
    (found : tree.locate base path = .ok place)
    (directory : tree.entryAt? place = some .directory) :
    later.locate base path = .ok place := by
  rw [locate, bind_eq_ok_iff] at found ⊢
  obtain ⟨start, started, walked⟩ := found
  exact ⟨start, started, walk_of_keepsDirectories keeps walked directory⟩

theorem exists_locate_of_exists (present : tree.exists? base path = true) :
    ∃ place, tree.locate base path = .ok place := by
  unfold exists? lookup? at present
  cases found : tree.locate base path with
  | error cause =>
      simp [found] at present
  | ok place =>
      exact ⟨place, rfl⟩

theorem lookup?_eq_some_iff {entry : Entry} :
    tree.lookup? base path = some entry ↔
      ∃ place, tree.locate base path = .ok place ∧ tree.entryAt? place = some entry := by
  unfold lookup?
  cases tree.locate base path with
  | error cause =>
      simp
  | ok place =>
      simp

theorem isDirectory_eq_true_iff :
    tree.isDirectory base path = true ↔
      ∃ place, tree.locate base path = .ok place ∧ tree.entryAt? place = some .directory := by
  rw [isDirectory, beq_iff_eq, lookup?_eq_some_iff]

theorem isFile_of_locate {location : Location}
    (found : tree.locate base path = .ok { location })
    (stands : tree.get? location = some (.file file)) : tree.isFile base path = true := by
  have looked : tree.lookup? base path = some (.file file) :=
    lookup?_eq_some_iff.mpr ⟨_, found, (entryAt?_of_not_removed rfl).trans stands⟩
  rw [isFile, looked]

theorem exists_of_isDirectory (leads : tree.isDirectory base path = true) :
    tree.exists? base path = true := by
  obtain ⟨place, found, directory⟩ := isDirectory_eq_true_iff.mp leads
  simp [exists?, lookup?, found, directory]

theorem isDirectory_of_keepsDirectories
    (keeps : KeepsDirectories tree later) (leads : tree.isDirectory base path = true) :
    later.isDirectory base path = true := by
  obtain ⟨place, found, directory⟩ := isDirectory_eq_true_iff.mp leads
  exact isDirectory_eq_true_iff.mpr
    ⟨place, locate_of_keepsDirectories keeps found directory,
      entryAt?_of_keepsDirectories keeps directory⟩

/-- Whatever stands in a tree, something stands in its place in a later one, and a directory stays
one. -/
structure KeepsEntries (tree later : FileTree) : Prop where
  directories : KeepsDirectories tree later
  entries : ∀ location, tree.get? location ≠ none → later.get? location ≠ none

theorem KeepsEntries.trans {middle : FileTree} (first : KeepsEntries tree middle)
    (second : KeepsEntries middle later) : KeepsEntries tree later where
  directories := fun location directory =>
    second.directories location (first.directories location directory)
  entries := fun location present => second.entries location (first.entries location present)

theorem KeepsEntries.locate (keeps : KeepsEntries tree later) {place : Place}
    (found : tree.locate base path = .ok place) : later.locate base path = .ok place := by
  have walk (names : List Bytes) (start here : Place) (walked : tree.walk start names = .ok here) :
      later.walk start names = .ok here := by
    induction names generalizing start with
    | nil =>
        exact walked
    | cons first rest inductionHypothesis =>
        rw [FileTree.walk, List.foldlM_cons, bind_eq_ok_iff] at walked ⊢
        obtain ⟨there, entered, walkedOn⟩ := walked
        have enteredThen := enter_of_keepsDirectories keeps.directories entered fun _ =>
          keeps.entries there.location
        exact ⟨there, enteredThen, inductionHypothesis there walkedOn⟩
  rw [FileTree.locate, bind_eq_ok_iff] at found ⊢
  obtain ⟨start, started, walked⟩ := found
  exact ⟨start, started, walk _ start place walked⟩

theorem KeepsEntries.exists (keeps : KeepsEntries tree later)
    (present : tree.exists? base path = true) : later.exists? base path = true := by
  obtain ⟨entry, looked⟩ := Option.isSome_iff_exists.mp present
  obtain ⟨place, found, stands⟩ := lookup?_eq_some_iff.mp looked
  simp only [exists?, lookup?, keeps.locate found]
  rw [entryAt?] at stands ⊢
  split
  · rfl
  · rename_i stays
    rw [if_neg stays] at stands
    exact Option.isSome_iff_ne_none.mpr (keeps.entries _ (by simp [stands]))

theorem missingLevels_eq_zero_iff {location : Location} :
    Place.missingLevels tree location = 0 ↔
      location = [] ∨ tree.get? location = some .directory := by
  cases location with
  | nil =>
      simp [Place.missingLevels]
  | cons name parent =>
      simp [Place.missingLevels]

theorem settle_eq_self_iff :
    base.settle tree = base ↔
      Place.missingLevels tree (base.location.drop base.removed) = 0 := by
  constructor
  · intro settled
    have sameRemoved := congrArg Place.removed settled
    simpa only [Place.settle, Nat.add_eq_left] using sameRemoved
  · intro whole
    simp only [Place.settle, whole, Nat.add_zero]

/-- As long as no directory is lost, the one in which relative paths start stays as it is. -/
theorem settle_of_keepsDirectories
    (keeps : KeepsDirectories tree later) (settled : base.settle tree = base) :
    base.settle later = base := by
  rw [settle_eq_self_iff] at settled ⊢
  exact missingLevels_eq_zero_iff.mpr ((missingLevels_eq_zero_iff.mp settled).imp_right (keeps _))

/-- A path that leads to something either ends without a name or has an entry in its slot. -/
theorem target_of_exists (present : tree.exists? base path = true) :
    tree.target base path = .ok .unnamed ∨
      ∃ slot : Slot tree, tree.target base path = .ok (.slot slot) ∧
        slot.name.length ≤ nameLimit ∧ tree.get? slot.location ≠ none := by
  obtain ⟨place, found⟩ := exists_locate_of_exists present
  rw [locate, bind_eq_ok_iff] at found
  obtain ⟨start, started, walked⟩ := found
  rcases List.eq_nil_or_concat (Path.names path) with bare | ⟨before, name, concat⟩
  · left
    rw [target_of_names_eq_nil bare, bind_eq_ok_iff]
    exact ⟨start, started, rfl⟩
  · have namesEq : Path.names path = before ++ [name] := by
      rw [concat, List.concat_eq_append]
    rw [namesEq, List.append_assoc, walk, List.foldlM_append, bind_eq_ok_iff] at walked
    obtain ⟨here, walkedTo, walkedOn⟩ := walked
    rw [List.singleton_append, List.foldlM_cons, bind_eq_ok_iff] at walkedOn
    obtain ⟨there, entered, -⟩ := walkedOn
    have reached : tree.reach base path before = .ok here := by
      rw [reach, bind_eq_ok_iff]
      exact ⟨start, started, walkedTo⟩
    rw [target_of_names_eq_concat namesEq]
    simp only [bind_eq_ok_iff]
    by_cases unnamed : name = Path.dot ∨ name = Path.dotDot
    · left
      refine ⟨here, reached, ?_⟩
      by_cases removed : here.isRemoved = true
      · rw [if_pos removed, if_pos unnamed]
      · have inside := entryAt?_of_enter entered
        rw [entryAt?_of_not_removed (by simpa using removed)] at inside
        rw [if_neg removed, dif_pos inside, if_pos unnamed]
    · right
      have named := not_or.mp unnamed
      obtain ⟨stays, inside, short, stands, -⟩ := (enter_eq_ok_iff named.1 named.2).mp entered
      refine ⟨⟨here.location, name, inside⟩, ⟨here, reached, ?_⟩, short, stands⟩
      rw [if_neg (by simp [stays]), dif_pos inside, if_neg unnamed]

/-- Where a path leads to something, no directory can be made. -/
theorem makeDirectory_of_exists (present : tree.exists? base path = true) :
    tree.makeDirectory base path = .error .alreadyExists := by
  rcases target_of_exists present with aimed | ⟨slot, aimed, short, stands⟩
  · rw [makeDirectory, aimed]
    rfl
  · rw [makeDirectory, aimed]
    change (if nameLimit < slot.name.length then _ else _) = _
    rw [if_neg (Nat.not_lt.mpr short), if_neg stands]
    rfl

/-- Where a path leads to something, making directories leaves the tree as it is. -/
theorem makeDirectories_of_exists (present : tree.exists? base path = true) :
    tree.makeDirectories base path = (tree, tree.acceptDirectory base path .alreadyExists) := by
  have written : path ≠ [] := by
    rintro rfl
    cases present
  rw [makeDirectories, makeWithParents, if_neg written, makeDirectory_of_exists present]

theorem makeDirectories_of_isDirectory (leads : tree.isDirectory base path = true) :
    tree.makeDirectories base path = (tree, .ok ()) := by
  rw [makeDirectories_of_exists (exists_of_isDirectory leads), acceptDirectory, if_pos leads]

theorem isDirectory_of_makeDirectory (made : tree.makeDirectory base path = .ok later) :
    later.isDirectory base path = true := by
  have adds := addsDirectories_of_makeDirectory made
  obtain ⟨slot, aimed, short, vacant, rfl⟩ := makeDirectory_eq_ok_iff.mp made
  have aimedLater := target_of_keepsDirectories adds.keepsDirectories aimed
  have stands :
      (tree.put slot .directory (.inl rfl)).get? slot.location = some .directory := by
    rw [get?_put, if_pos rfl]
  have found := locate_of_target aimedLater short stands
  exact isDirectory_eq_true_iff.mpr ⟨_, found, (entryAt?_of_not_removed rfl).trans stands⟩

theorem isDirectory_of_acceptDirectory
    {cause : SystemError} (accepted : tree.acceptDirectory base path cause = .ok ()) :
    tree.isDirectory base path = true := by
  unfold acceptDirectory at accepted
  split at accepted
  · assumption
  · cases accepted

/-- Once the directories on the way to a path have been made, it leads to a directory. -/
theorem isDirectory_of_makeDirectories
    (written : path ≠ []) (made : tree.makeDirectories base path = (later, .ok ())) :
    later.isDirectory base path = true := by
  rw [makeDirectories, makeWithParents, if_neg written] at made
  split at made
  · rename_i madeHere
    cases made
    exact isDirectory_of_makeDirectory madeHere
  · split at made
    · cases made
    · split at made
      · rename_i madeHere
        cases made
        exact isDirectory_of_makeDirectory madeHere
      · injection made with laterEq accepted
        subst laterEq
        exact isDirectory_of_acceptDirectory accepted
  · injection made with laterEq accepted
    subst laterEq
    exact isDirectory_of_acceptDirectory accepted

/-! ## Reading and writing files -/

def contentOf : Entry → Except SystemError Bytes
  | .file file =>
      match file.readRefusal? with
      | some refusal => .error refusal
      | none => .ok file.content
  | .directory => .error .isADirectory

/-- What is read is what stands at the end of the path. -/
theorem readFile_of_lookup? {entry : Entry} (looked : tree.lookup? base path = some entry) :
    tree.readFile base path = contentOf entry := by
  obtain ⟨place, found, stands⟩ := lookup?_eq_some_iff.mp looked
  rw [readFile, found]
  simp only [bind, Except.bind, stands]
  cases entry with
  | file file =>
      simp only [contentOf]
      cases file.readRefusal? with
      | none =>
          rfl
      | some refusal =>
          rfl
  | directory =>
      rfl

theorem lookup?_eq_file_iff
    {before : List Bytes} {name : Bytes} (ends : path.EndsWithName before name) :
    tree.lookup? base path = some (.file file) ↔
      ∃ slot : Slot tree, tree.target base path = .ok (.slot slot) ∧
        slot.name.length ≤ nameLimit ∧ tree.get? slot.location = some (.file file) := by
  rw [lookup?_eq_some_iff]
  constructor
  · rintro ⟨place, found, stands⟩
    obtain ⟨slot, aimed, short, -, rfl⟩ := (locate_eq_ok_iff ends).mp found
    rw [entryAt?_of_not_removed rfl] at stands
    exact ⟨slot, aimed, short, stands⟩
  · rintro ⟨slot, aimed, short, stands⟩
    have found : tree.locate base path = .ok { location := slot.location } :=
      (locate_eq_ok_iff ends).mpr ⟨slot, aimed, short, by simp [stands], rfl⟩
    exact ⟨_, found, (entryAt?_of_not_removed rfl).trans stands⟩

theorem readFile_of_isAbsolute (absolute : path.isAbsolute = true) (other : Base) :
    tree.readFile other path = tree.readFile base path := by
  rw [readFile, readFile, locate_of_isAbsolute absolute other]

theorem keepsDirectories_of_writeFile (wrote : tree.writeFile base path content = .ok later) :
    KeepsDirectories tree later := by
  obtain ⟨slot, -, -, -, granted, rfl⟩ := writeFile_eq_ok_iff.mp wrote
  exact keepsDirectories_put_file granted.notDirectory content

theorem lookup?_of_writeFile (wrote : tree.writeFile base path content = .ok later) :
    later.lookup? base path = some (.file content) := by
  have keeps := keepsDirectories_of_writeFile wrote
  obtain ⟨slot, aimed, noSeparator, short, granted, rfl⟩ := writeFile_eq_ok_iff.mp wrote
  obtain ⟨before, ends⟩ := endsWithName_of_target aimed noSeparator
  refine (lookup?_eq_file_iff ends).mpr ⟨_, target_of_keepsDirectories keeps aimed, short, ?_⟩
  exact (get?_put _ slot.location).trans (if_pos rfl)

/-- What is written to one file leaves another one as it is. -/
theorem lookup?_of_writeFile_elsewhere
    {other : Path} {before otherBefore : List Bytes} {name otherName : Bytes}
    (ends : path.EndsWithName before name) (otherEnds : other.EndsWithName otherBefore otherName)
    (different : name ≠ otherName)
    (looked : tree.lookup? base other = some (.file file))
    (wrote : tree.writeFile base path content = .ok later) :
    later.lookup? base other = some (.file file) := by
  have keeps := keepsDirectories_of_writeFile wrote
  obtain ⟨slot, aimed, -, -, granted, rfl⟩ := writeFile_eq_ok_iff.mp wrote
  obtain ⟨otherSlot, otherAimed, short, stands⟩ := (lookup?_eq_file_iff otherEnds).mp looked
  obtain ⟨-, -, -, -, nameEq⟩ := (target_eq_slot_iff ends).mp aimed
  obtain ⟨-, -, -, -, otherNameEq⟩ := (target_eq_slot_iff otherEnds).mp otherAimed
  have elsewhere : otherSlot.location ≠ slot.location := by
    intro same
    have sameName : otherSlot.name = slot.name := (List.cons.inj same).1
    rw [nameEq, otherNameEq] at sameName
    exact different sameName.symm
  refine (lookup?_eq_file_iff otherEnds).mpr
    ⟨_, target_of_keepsDirectories keeps otherAimed, short, ?_⟩
  exact (get?_put _ otherSlot.location).trans ((if_neg elsewhere).trans stands)

/-- To write into an open file what it holds changes nothing. -/
theorem writeFile_of_lookup?
    {before : List Bytes} {name : Bytes} (ends : path.EndsWithName before name)
    (looked : tree.lookup? base path = some (.file content)) :
    tree.writeFile base path content = .ok tree := by
  obtain ⟨slot, aimed, short, stands⟩ := (lookup?_eq_file_iff ends).mp looked
  have granted := OpenAt.of_content stands
  have same : tree = tree.put slot (.file content) (.inr granted.notDirectory) := by
    apply ext_get?
    intro location
    rw [get?_put]
    split
    · rename_i here
      rw [here, stands]
    · rfl
  exact writeFile_eq_ok_iff.mpr ⟨slot, aimed, ends.noSeparator, short, granted, same⟩

end RunManifest.FileTree
