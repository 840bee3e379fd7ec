import RunManifest.Files.Operations
import RunManifest.Proofs.Files.Paths
import RunManifest.Proofs.Outcomes

/-!
# Following paths

A path that ends with a name leads to the directory that its other names reach and from there to
the slot of its last name.  Looking something up and changing it use the same slot
(`locate_eq_ok_iff`), and the slot stays the same as long as no directory is lost
(`target_of_keepsDirectories`).
-/

namespace RunManifest.FileTree

open Outcomes

variable {tree later : FileTree} {base : Base} {path : Path}
variable {before : List Bytes} {name : Bytes}

theorem entryAt?_of_not_removed
    {place : Place} (stays : place.isRemoved = false) :
    tree.entryAt? place = tree.get? place.location := by
  simp [entryAt?, stays]

theorem entryAt?_of_enter
    {here there : Place} (entered : tree.enter here name = .ok there) :
    tree.entryAt? here = some .directory := by
  unfold enter at entered
  split at entered
  · cases entered
  · cases entered
  · assumption

/-- A name other than `.` and `..` leads into a directory that has not been removed, to something
that stands in it. -/
theorem enter_eq_ok_iff
    {here there : Place} (notDot : name ≠ Path.dot) (notDotDot : name ≠ Path.dotDot) :
    tree.enter here name = .ok there ↔
      here.isRemoved = false ∧ tree.get? here.location = some .directory ∧
        name.length ≤ nameLimit ∧ tree.get? (name :: here.location) ≠ none ∧
        there = ⟨name :: here.location, 0⟩ := by
  constructor
  · intro entered
    have directory := entryAt?_of_enter entered
    simp only [enter, directory, notDot, notDotDot, if_false] at entered
    split at entered
    · cases entered
    · rename_i stays
      rw [Bool.not_eq_true] at stays
      rw [entryAt?_of_not_removed stays] at directory
      split at entered
      · cases entered
      · split at entered
        · cases entered
        · cases entered
          exact ⟨stays, directory, Nat.le_of_not_lt ‹_›, ‹_›, rfl⟩
  · rintro ⟨stays, directory, short, present, rfl⟩
    simp [enter, entryAt?_of_not_removed stays, directory, notDot, notDotDot, stays,
      Nat.not_lt.mpr short, present]

/-- An absolute path leads to the same place from everywhere. -/
theorem locate_of_isAbsolute (absolute : path.isAbsolute = true) (other : Base) :
    tree.locate other path = tree.locate base path := by
  simp only [locate, startOf, absolute, if_true]

/-- The place to which the names before the last name of a path lead. -/
def reach (tree : FileTree) (base : Base) (path : Path) (before : List Bytes) :
    Except SystemError Place := do
  let start ← startOf base path
  tree.walk start before

theorem locate_eq_reach_bind (ends : path.EndsWithName before name) :
    tree.locate base path =
      tree.reach base path before >>= fun here => tree.enter here name := by
  simp [locate, reach, ends.names_eq, ends.noSeparator, walk]

theorem target_of_names_eq_nil (bare : Path.names path = []) :
    tree.target base path = startOf base path >>= fun _ => .ok .unnamed := by
  simp [target, bare, pure, Except.pure]

/-- What the last name of a path stands for, in the directory that the names before it reach. -/
theorem target_of_names_eq_concat (namesEq : Path.names path = before ++ [name]) :
    tree.target base path =
      tree.reach base path before >>= fun here =>
        if here.isRemoved then
          .ok (if name = Path.dot ∨ name = Path.dotDot then .unnamed else .nowhere)
        else if inside : tree.get? here.location = some .directory then
          .ok (if name = Path.dot ∨ name = Path.dotDot then .unnamed
            else .slot ⟨here.location, name, inside⟩)
        else
          .error .notADirectory := by
  simp [target, reach, namesEq]
  rfl

/-- A path has a slot if its last name is neither `.` nor `..` and the names before it reach a
directory that has not been removed.  The slot lies in that directory. -/
theorem target_eq_slot_iff_reach {slot : Slot tree} :
    tree.target base path = .ok (.slot slot) ↔
      ∃ before here, Path.names path = before ++ [slot.name] ∧
        slot.name ≠ Path.dot ∧ slot.name ≠ Path.dotDot ∧
        tree.reach base path before = .ok here ∧ here.isRemoved = false ∧
        slot.parent = here.location := by
  constructor
  · intro aimed
    rcases List.eq_nil_or_concat (Path.names path) with bare | ⟨before, name, concat⟩
    · rw [target_of_names_eq_nil bare, bind_eq_ok_iff] at aimed
      obtain ⟨_, _, aimed⟩ := aimed
      cases aimed
    · have namesEq : Path.names path = before ++ [name] := by
        rw [concat, List.concat_eq_append]
      rw [target_of_names_eq_concat namesEq, bind_eq_ok_iff] at aimed
      obtain ⟨here, reached, aimed⟩ := aimed
      split at aimed
      · split at aimed <;> cases aimed
      · rename_i stays
        split at aimed
        · split at aimed
          · cases aimed
          · rename_i named
            cases aimed
            rw [not_or] at named
            exact ⟨before, here, namesEq, named.1, named.2, reached, by simpa using stays, rfl⟩
        · cases aimed
  · obtain ⟨parent, name, inside⟩ := slot
    rintro ⟨before, here, namesEq, notDot, notDotDot, reached, stays, parentEq⟩
    subst parentEq
    rw [target_of_names_eq_concat namesEq, bind_eq_ok_iff]
    refine ⟨here, reached, ?_⟩
    rw [if_neg (by simp [stays]), dif_pos inside, if_neg (not_or.mpr ⟨notDot, notDotDot⟩)]

/-- The slot for the last name of a path lies in the directory that the names before it reach. -/
theorem target_eq_slot_iff
    (ends : path.EndsWithName before name) {slot : Slot tree} :
    tree.target base path = .ok (.slot slot) ↔
      ∃ here, tree.reach base path before = .ok here ∧ here.isRemoved = false ∧
        slot.parent = here.location ∧ slot.name = name := by
  rw [target_eq_slot_iff_reach]
  constructor
  · rintro ⟨initial, here, namesEq, -, -, reached, stays, parentEq⟩
    rw [ends.names_eq] at namesEq
    have parts := List.append_inj' namesEq rfl
    rw [← parts.1] at reached
    exact ⟨here, reached, stays, parentEq, (List.singleton_inj.mp parts.2).symm⟩
  · rintro ⟨here, reached, stays, parentEq, nameEq⟩
    rw [nameEq]
    exact ⟨before, here, ends.names_eq, ends.notDot, ends.notDotDot, reached, stays, parentEq⟩

/-- A path that ends with a name leads to what stands in the slot of that name. -/
theorem locate_eq_ok_iff
    (ends : path.EndsWithName before name) {place : Place} :
    tree.locate base path = .ok place ↔
      ∃ slot : Slot tree, tree.target base path = .ok (.slot slot) ∧
        slot.name.length ≤ nameLimit ∧ tree.get? slot.location ≠ none ∧
        place = ⟨slot.location, 0⟩ := by
  rw [locate_eq_reach_bind ends, bind_eq_ok_iff]
  constructor
  · rintro ⟨here, reached, entered⟩
    obtain ⟨stays, inside, short, present, rfl⟩ :=
      (enter_eq_ok_iff ends.notDot ends.notDotDot).mp entered
    exact ⟨⟨here.location, name, inside⟩,
      (target_eq_slot_iff ends).mpr ⟨here, reached, stays, rfl, rfl⟩, short, present, rfl⟩
  · rintro ⟨slot, aimed, short, present, rfl⟩
    obtain ⟨here, reached, stays, parentEq, nameEq⟩ := (target_eq_slot_iff ends).mp aimed
    refine ⟨here, reached, (enter_eq_ok_iff ends.notDot ends.notDotDot).mpr ?_⟩
    rw [← parentEq, ← nameEq]
    exact ⟨stays, slot.inside, short, present, rfl⟩

theorem isFile_eq_true_iff (ends : path.EndsWithName before name) :
    tree.isFile base path = true ↔
      ∃ (slot : Slot tree) (file : File), tree.target base path = .ok (.slot slot) ∧
        slot.name.length ≤ nameLimit ∧ tree.get? slot.location = some (.file file) := by
  have located (slot : Slot tree) :
      tree.entryAt? ⟨slot.location, 0⟩ = tree.get? slot.location :=
    entryAt?_of_not_removed rfl
  constructor
  · intro leadsToFile
    unfold isFile lookup? at leadsToFile
    cases found : tree.locate base path with
    | error cause =>
        simp [found] at leadsToFile
    | ok place =>
        obtain ⟨slot, aimed, short, present, rfl⟩ := (locate_eq_ok_iff ends).mp found
        simp only [found, located] at leadsToFile
        split at leadsToFile
        · exact ⟨slot, _, aimed, short, ‹_›⟩
        · cases leadsToFile
  · rintro ⟨slot, file, aimed, short, stands⟩
    have found : tree.locate base path = .ok ⟨slot.location, 0⟩ :=
      (locate_eq_ok_iff ends).mpr ⟨slot, aimed, short, by simp [stands], rfl⟩
    simp [isFile, lookup?, found, located, stands]

/-! ## Later trees -/

/-- The directories of one tree are directories of a later one. -/
def KeepsDirectories (tree later : FileTree) : Prop :=
  ∀ location, tree.get? location = some .directory → later.get? location = some .directory

theorem entryAt?_of_keepsDirectories
    (keeps : KeepsDirectories tree later) {place : Place}
    (directory : tree.entryAt? place = some .directory) :
    later.entryAt? place = some .directory := by
  unfold entryAt? at directory ⊢
  split
  · rfl
  · rename_i stays
    rw [if_neg stays] at directory
    exact keeps place.location directory

theorem enter_of_keepsDirectories
    (keeps : KeepsDirectories tree later) {here there : Place}
    (entered : tree.enter here name = .ok there)
    (stays : there.isRemoved = false → tree.get? there.location ≠ none →
      later.get? there.location ≠ none) :
    later.enter here name = .ok there := by
  have hereDirectory := entryAt?_of_enter entered
  have laterDirectory := entryAt?_of_keepsDirectories keeps hereDirectory
  by_cases dot : name = Path.dot
  · simpa [enter, hereDirectory, laterDirectory, dot] using entered
  · by_cases dotDot : name = Path.dotDot
    · have different : Path.dotDot ≠ Path.dot := by decide
      simpa [enter, hereDirectory, laterDirectory, dotDot, different] using entered
    · obtain ⟨notRemoved, inside, short, present, rfl⟩ := (enter_eq_ok_iff dot dotDot).mp entered
      exact (enter_eq_ok_iff dot dotDot).mpr
        ⟨notRemoved, keeps _ inside, short, stays rfl present, rfl⟩

theorem entryAt?_of_walk
    {start here : Place} {names : List Bytes}
    (walked : tree.walk start names = .ok here)
    (directory : tree.entryAt? here = some .directory) :
    tree.entryAt? start = some .directory := by
  cases names with
  | nil =>
      cases walked
      exact directory
  | cons first rest =>
      rw [walk, List.foldlM_cons, bind_eq_ok_iff] at walked
      obtain ⟨_, entered, _⟩ := walked
      exact entryAt?_of_enter entered

/-- A walk to a directory is the same in a later tree: it passes through directories only. -/
theorem walk_of_keepsDirectories
    (keeps : KeepsDirectories tree later) {start here : Place} {names : List Bytes}
    (walked : tree.walk start names = .ok here)
    (directory : tree.entryAt? here = some .directory) :
    later.walk start names = .ok here := by
  induction names generalizing start with
  | nil =>
      exact walked
  | cons first rest inductionHypothesis =>
      rw [walk, List.foldlM_cons, bind_eq_ok_iff] at walked ⊢
      obtain ⟨there, entered, walkedOn⟩ := walked
      refine ⟨there, enter_of_keepsDirectories keeps entered ?_, inductionHypothesis walkedOn⟩
      intro notRemoved _
      have passes := entryAt?_of_walk walkedOn directory
      rw [entryAt?_of_not_removed notRemoved] at passes
      simp [keeps _ passes]

/-- The slot of a path stays the same as long as no directory is lost. -/
theorem target_of_keepsDirectories
    (keeps : KeepsDirectories tree later) {slot : Slot tree}
    (aimed : tree.target base path = .ok (.slot slot)) :
    later.target base path = .ok (.slot ⟨slot.parent, slot.name, keeps _ slot.inside⟩) := by
  obtain ⟨before, here, namesEq, notDot, notDotDot, reached, stays, parentEq⟩ :=
    target_eq_slot_iff_reach.mp aimed
  apply target_eq_slot_iff_reach.mpr
  refine ⟨before, here, namesEq, notDot, notDotDot, ?_, stays, parentEq⟩
  have directory : tree.entryAt? here = some .directory := by
    rw [entryAt?_of_not_removed stays, ← parentEq, slot.inside]
  rw [reach, bind_eq_ok_iff] at reached ⊢
  obtain ⟨start, started, walked⟩ := reached
  exact ⟨start, started, walk_of_keepsDirectories keeps walked directory⟩

/-- The last name of a path is that of an entry at a location, whether anything stands there or
not. -/
def NamesEntry (tree : FileTree) (base : Base) (path : Path) (location : Location) : Prop :=
  ∃ slot : Slot tree, tree.target base path = .ok (.slot slot) ∧ slot.location = location

theorem NamesEntry.of_keepsDirectories
    (keeps : KeepsDirectories tree later) {location : Location}
    (names : tree.NamesEntry base path location) :
    later.NamesEntry base path location := by
  obtain ⟨slot, aimed, rfl⟩ := names
  exact ⟨_, target_of_keepsDirectories keeps aimed, rfl⟩

theorem location_of_walk {start here : Place} {names : List Bytes}
    (named : ∀ name ∈ names, name ≠ Path.dot ∧ name ≠ Path.dotDot)
    (walked : tree.walk start names = .ok here) :
    here.location = names.reverse ++ start.location := by
  induction names generalizing start with
  | nil =>
      cases walked
      rfl
  | cons first rest inductionHypothesis =>
      have nameds := List.forall_mem_cons.mp named
      rw [walk, List.foldlM_cons, bind_eq_ok_iff] at walked
      obtain ⟨there, entered, walkedOn⟩ := walked
      obtain ⟨-, -, -, -, rfl⟩ := (enter_eq_ok_iff nameds.1.1 nameds.1.2).mp entered
      rw [inductionHypothesis nameds.2 walkedOn, List.reverse_cons, List.append_assoc]
      rfl

theorem startOf_of_isAbsolute {start : Place} (absolute : path.isAbsolute = true)
    (started : startOf base path = .ok start) : start = .root := by
  unfold startOf at started
  rw [if_pos absolute] at started
  split at started
  · cases started
  · split at started
    · cases started
    · split at started
      · cases started
      · cases started
        rfl

/-- Where a plain path leads can be read off its names. -/
theorem NamesEntry.location_eq {location : Location} (plain : path.IsPlain)
    (names : tree.NamesEntry base path location) : location = (Path.names path).reverse := by
  obtain ⟨slot, aimed, rfl⟩ := names
  obtain ⟨before, here, namesEq, -, -, reached, -, parentEq⟩ := target_eq_slot_iff_reach.mp aimed
  rw [reach, bind_eq_ok_iff] at reached
  obtain ⟨start, started, walked⟩ := reached
  have named : ∀ name ∈ before, name ≠ Path.dot ∧ name ≠ Path.dotDot := by
    intro name member
    apply plain.named
    rw [namesEq]
    exact List.mem_append_left [slot.name] member
  rw [startOf_of_isAbsolute plain.absolute started] at walked
  have hereEq : here.location = before.reverse := by
    rw [location_of_walk named walked]
    exact List.append_nil _
  rw [namesEq, List.reverse_append, ← hereEq, ← parentEq]
  rfl

end RunManifest.FileTree
