import RunManifest.Proofs.Files.Ways

/-!
# Entries of one directory

Two paths that differ in their last names alone lead to entries of one directory, or neither of them
leads anywhere.  When one entry is a directory that is removed, the other path still leads where it
led, seen from where the removal leaves the directory in which relative paths start.
-/

namespace RunManifest.FileTree

open Outcomes

variable {tree later : FileTree} {base : Base} {path one other : Path}
variable {before : List Bytes} {name otherName : Bytes} {location parent gone : Location}

theorem NamesEntry.unique {otherLocation : Location}
    (names : tree.NamesEntry base path location)
    (otherNames : tree.NamesEntry base path otherLocation) :
    location = otherLocation := by
  obtain ⟨slot, aimed, rfl⟩ := names
  obtain ⟨otherSlot, otherAimed, rfl⟩ := otherNames
  rw [aimed] at otherAimed
  cases otherAimed
  rfl

/-- What stands where a path leads is what stands at the location that it names. -/
theorem lookup?_iff_namesEntry (ends : path.EndsWithName before name) {entry : Entry} :
    tree.lookup? base path = some entry ↔
      name.length ≤ nameLimit ∧
        ∃ location, tree.NamesEntry base path location ∧ tree.get? location = some entry := by
  rw [lookup?_eq_some_iff]
  constructor
  · rintro ⟨place, located, stands⟩
    obtain ⟨slot, aimed, short, -, rfl⟩ := (locate_eq_ok_iff ends).mp located
    obtain ⟨-, -, -, -, nameEq⟩ := (target_eq_slot_iff ends).mp aimed
    rw [entryAt?_of_not_removed rfl] at stands
    exact ⟨nameEq ▸ short, slot.location, ⟨slot, aimed, rfl⟩, stands⟩
  · rintro ⟨short, location, ⟨slot, aimed, rfl⟩, stands⟩
    obtain ⟨-, -, -, -, nameEq⟩ := (target_eq_slot_iff ends).mp aimed
    have located :=
      (locate_eq_ok_iff ends).mpr ⟨slot, aimed, nameEq ▸ short, by simp [stands], rfl⟩
    exact ⟨_, located, (entryAt?_of_not_removed rfl).trans stands⟩

theorem exists_iff_namesEntry (ends : path.EndsWithName before name) :
    tree.exists? base path = true ↔
      name.length ≤ nameLimit ∧
        ∃ location, tree.NamesEntry base path location ∧ tree.get? location ≠ none := by
  simp only [exists?, Option.isSome_iff_exists, lookup?_iff_namesEntry ends,
    Option.ne_none_iff_exists']
  constructor
  · rintro ⟨entry, short, location, names, stands⟩
    exact ⟨short, location, names, entry, stands⟩
  · rintro ⟨short, location, names, entry, stands⟩
    exact ⟨entry, short, location, names, stands⟩

theorem isDirectory_iff_namesEntry (ends : path.EndsWithName before name) :
    tree.isDirectory base path = true ↔
      name.length ≤ nameLimit ∧
        ∃ location, tree.NamesEntry base path location ∧
          tree.get? location = some .directory := by
  rw [isDirectory, beq_iff_eq, lookup?_iff_namesEntry ends]

theorem namesEntry_iff_walk (ends : path.EndsWithName before name) :
    tree.NamesEntry base path location ↔
      IsUsable path ∧ ∃ here, tree.walk (startPlace base path) before = .ok here ∧
        here.isRemoved = false ∧ tree.get? here.location = some .directory ∧
        location = name :: here.location := by
  constructor
  · rintro ⟨slot, aimed, rfl⟩
    obtain ⟨here, reached, stays, parentEq, nameEq⟩ := (target_eq_slot_iff ends).mp aimed
    rw [reach, bind_eq_ok_iff] at reached
    obtain ⟨start, started, walked⟩ := reached
    obtain ⟨usable, rfl⟩ := startOf_eq_ok_iff.mp started
    refine ⟨usable, here, walked, stays, parentEq ▸ slot.inside, ?_⟩
    rw [Slot.location, nameEq, parentEq]
  · rintro ⟨usable, here, walked, stays, inside, rfl⟩
    refine ⟨⟨here.location, name, inside⟩, (target_eq_slot_iff ends).mpr ?_, rfl⟩
    refine ⟨here, ?_, stays, rfl, rfl⟩
    rw [reach, startOf_of_isUsable usable]
    exact walked

/-- A name behind a path is that of an entry in the directory to which the path leads. -/
theorem namesEntry_join_iff (ends : path.EndsWithName before name) {file : Bytes}
    (entry : Path.IsEntryName file) :
    tree.NamesEntry base (Path.join path file) location ↔
      IsUsable (Path.join path file) ∧ ∃ directory, tree.NamesEntry base path directory ∧
        name.length ≤ nameLimit ∧ tree.get? directory = some .directory ∧
        location = file :: directory := by
  have fileEnds : (Path.join path file).EndsWithName (Path.names path) file :=
    .join path entry.present entry.whole entry.notDot entry.notDotDot
  have sameStart : startPlace base (Path.join path file) = startPlace base path := by
    rw [startPlace, startPlace, Path.isAbsolute_join_of_relative path entry.relative]
  have present : path ≠ [] := by
    rintro rfl
    exact absurd ends.names_eq (by simp [Path.names, Path.pieces])
  rw [namesEntry_iff_walk fileEnds, sameStart, ends.names_eq]
  simp only [walk_concat_eq_ok_iff]
  constructor
  · rintro ⟨usable, here, ⟨above, walked, entered⟩, -, inside, rfl⟩
    obtain ⟨stays, aboveInside, short, -, rfl⟩ :=
      (enter_eq_ok_iff ends.notDot ends.notDotDot).mp entered
    have pathUsable : IsUsable path :=
      usable.of_sublist (Path.sublist_join path entry.relative) present
    exact ⟨usable, _, (namesEntry_iff_walk ends).mpr
      ⟨pathUsable, above, walked, stays, aboveInside, rfl⟩, short, inside, rfl⟩
  · rintro ⟨usable, directory, names, short, inside, rfl⟩
    obtain ⟨-, above, walked, stays, aboveInside, rfl⟩ := (namesEntry_iff_walk ends).mp names
    have entered := (enter_eq_ok_iff ends.notDot ends.notDotDot).mpr
      ⟨stays, aboveInside, short, by simp [inside], rfl⟩
    exact ⟨usable, _, ⟨above, walked, entered⟩, rfl, inside, rfl⟩

/-- The ways in which the making of the directory at a path can go that has a place. -/
inductive Making (tree : FileTree) (base : Base) (path : Path) (name : Bytes)
    (location : Location) : Prop
  | made {later : FileTree} (short : name.length ≤ nameLimit)
      (vacant : tree.get? location = none)
      (whole : tree.makeDirectories base path = (later, .ok ()))
      (view : ∀ place, later.get? place =
        if place = location then some .directory else tree.get? place)
  | stands (short : name.length ≤ nameLimit) (directory : tree.get? location = some .directory)
      (whole : tree.makeDirectories base path = (tree, .ok ()))
  | refused {cause : SystemError}
      (blocked : name.length ≤ nameLimit →
        tree.get? location ≠ none ∧ tree.get? location ≠ some .directory)
      (whole : tree.makeDirectories base path = (tree, .error cause))

theorem making_of_namesEntry (ends : path.EndsWithName before name)
    (names : tree.NamesEntry base path location) :
    Making tree base path name location := by
  obtain ⟨slot, aimed, rfl⟩ := names
  obtain ⟨-, -, -, -, nameEq⟩ := (target_eq_slot_iff ends).mp aimed
  have present : path ≠ [] := by
    rintro rfl
    cases aimed
  by_cases short : name.length ≤ nameLimit
  · rw [← nameEq] at short
    cases stands : tree.get? slot.location with
    | none =>
        have made := makeDirectory_eq_ok_iff.mpr ⟨slot, aimed, short, stands, rfl⟩
        exact .made (nameEq ▸ short) stands (makeWithParents_of_makeDirectory present made _)
          (get?_put _)
    | some entry =>
        have looked : tree.lookup? base path = some entry := by
          have located := (locate_eq_ok_iff ends).mpr ⟨slot, aimed, short, by simp [stands], rfl⟩
          exact lookup?_eq_some_iff.mpr
            ⟨_, located, (entryAt?_of_not_removed rfl).trans stands⟩
        cases entry with
        | directory =>
            have leads : tree.isDirectory base path = true := by
              rw [isDirectory, looked, beq_self_eq_true]
            exact .stands (nameEq ▸ short) stands (makeDirectories_of_isDirectory leads)
        | file content =>
            have found : tree.exists? base path = true := by
              rw [exists?, looked, Option.isSome_some]
            have notDirectory : tree.isDirectory base path = false := by
              rw [isDirectory, looked]
              rfl
            have whole : tree.makeDirectories base path = (tree, .error .alreadyExists) := by
              rw [makeDirectories_of_exists found, acceptDirectory,
                if_neg (by simp [notDirectory])]
            exact .refused (fun _ => by simp [stands]) whole
  · have long : nameLimit < slot.name.length := by
      rw [nameEq]
      exact Nat.lt_of_not_le short
    have refused : tree.makeDirectory base path = .error .nameTooLong := by
      rw [makeDirectory, aimed]
      exact if_pos long
    have notDirectory : ¬ tree.isDirectory base path = true := by
      intro leads
      obtain ⟨place, found, -⟩ := isDirectory_eq_true_iff.mp leads
      obtain ⟨otherSlot, otherAimed, otherShort, -⟩ := (locate_eq_ok_iff ends).mp found
      rw [aimed] at otherAimed
      cases otherAimed
      exact Nat.not_le.mpr long otherShort
    have whole : tree.makeDirectories base path = (tree, .error .nameTooLong) := by
      rw [makeDirectories, makeWithParents_of_refused present refused (by simp),
        acceptDirectory, if_neg notDirectory]
    exact .refused (fun shortName => absurd shortName short) whole

theorem NamesEntry.exists_target (names : tree.NamesEntry base path location) :
    ∃ target, tree.target base path = .ok target := by
  obtain ⟨slot, aimed, -⟩ := names
  exact ⟨_, aimed⟩

/-- If a path can be followed to its last name, it leads where it leads in a later tree. -/
theorem NamesEntry.of_later (keeps : KeepsDirectories tree later)
    (ends : path.EndsWithName before name) (found : ∃ target, tree.target base path = .ok target)
    (names : later.NamesEntry base path location) :
    tree.NamesEntry base path location := by
  obtain ⟨usable, here, walked, stays, -, rfl⟩ := (namesEntry_iff_walk ends).mp names
  obtain ⟨there, reached, inside⟩ := (exists_target_iff ends.names_eq).mp found
  rw [reach, startOf_of_isUsable usable] at reached
  have walkedLater := walk_of_keepsDirectories keeps reached inside
  rw [walked] at walkedLater
  cases walkedLater
  rw [entryAt?_of_not_removed stays] at inside
  exact (namesEntry_iff_walk ends).mpr ⟨usable, here, reached, stays, inside, rfl⟩

/-- Where a path leads somewhere in a later tree, making the directories on the way to it lets it
lead there, and makes nothing that the later tree does not have. -/
theorem namesEntry_makeWithParents {parents : List Path} (way : IsWay base path parents)
    (adds : AddsDirectories tree later) (settled : base.settle tree = base)
    (ends : path.EndsWithName before name) (names : later.NamesEntry base path location) :
    AddsDirectories (tree.makeWithParents base parents).1 later ∧
      (tree.makeWithParents base parents).1.NamesEntry base path location := by
  cases way with
  | start =>
      exact absurd ends.names_eq (by simp [Path.names, Path.pieces])
  | root =>
      exact absurd ends.names_eq (by simp [Path.names, Path.pieces])
  | @step _ parent parents present liesIn way =>
      rcases (liesIn later).mp names.exists_target with ⟨rfl, -⟩ | leads
      · have found := (liesIn tree).mpr (.inl ⟨rfl, entryAt?_of_settled settled⟩)
        exact ⟨adds, names.of_later adds.keepsDirectories ends found⟩
      · obtain ⟨made, whole, within, parentThere⟩ :=
          makeWithParents_within way adds settled leads
        have found := (liesIn made).mpr (.inr parentThere)
        rw [whole]
        exact ⟨within, names.of_later within.keepsDirectories ends found⟩

theorem NamesEntry.sibling (ends : one.EndsWithName before name)
    (otherEnds : other.EndsWithName before otherName)
    (sameStart : one.isAbsolute = other.isAbsolute) (usable : IsUsable other)
    (names : tree.NamesEntry base one (name :: parent)) :
    tree.NamesEntry base other (otherName :: parent) := by
  obtain ⟨-, here, walked, stays, inside, same⟩ := (namesEntry_iff_walk ends).mp names
  injection same with _ parentEq
  rw [startPlace, sameStart] at walked
  exact (namesEntry_iff_walk otherEnds).mpr
    ⟨usable, here, walked, stays, inside, congrArg (List.cons otherName) parentEq⟩

/-- Where there is no place for either of two entries of one directory, both are refused alike. -/
theorem makeDirectory_eq_of_siblings (ends : one.EndsWithName before name)
    (otherEnds : other.EndsWithName before otherName)
    (sameStart : one.isAbsolute = other.isAbsolute) (usable : IsUsable one)
    (otherUsable : IsUsable other) (noPlace : ∀ location, ¬ tree.NamesEntry base one location) :
    tree.makeDirectory base one = tree.makeDirectory base other := by
  have sameReach : tree.reach base one before = tree.reach base other before := by
    rw [reach, reach, startOf_of_isUsable usable, startOf_of_isUsable otherUsable, startPlace,
      startPlace, sameStart]
  rw [makeDirectory, makeDirectory, target_of_names_eq_concat ends.names_eq,
    target_of_names_eq_concat otherEnds.names_eq, ← sameReach]
  cases reached : tree.reach base one before with
  | error cause =>
      rfl
  | ok here =>
      have named := not_or.mpr ⟨ends.notDot, ends.notDotDot⟩
      have otherNamed := not_or.mpr ⟨otherEnds.notDot, otherEnds.notDotDot⟩
      by_cases removed : here.isRemoved = true
      · simp only [bind, Except.bind, if_pos removed, if_neg named, if_neg otherNamed]
      · have outside : tree.get? here.location ≠ some .directory := by
          intro inside
          rw [reach, bind_eq_ok_iff] at reached
          obtain ⟨start, started, walked⟩ := reached
          obtain ⟨-, rfl⟩ := startOf_eq_ok_iff.mp started
          exact noPlace _ ((namesEntry_iff_walk ends).mpr
            ⟨usable, here, walked, by simpa using removed, inside, rfl⟩)
        simp only [bind, Except.bind, if_neg removed, dif_neg outside]

/-! ## After a removal -/

theorem missingLevels_drop (location : Location) :
    Place.missingLevels tree (location.drop (Place.missingLevels tree location)) = 0 := by
  induction location with
  | nil =>
      rfl
  | cons name parent inductionHypothesis =>
      rw [Place.missingLevels]
      split
      · rename_i directory
        rw [List.drop_zero, Place.missingLevels, if_pos directory]
      · rw [List.drop_succ_cons]
        exact inductionHypothesis

theorem settle_settle (base : Base) (tree : FileTree) :
    (base.settle tree).settle tree = base.settle tree := by
  rw [settle_eq_self_iff, Place.settle, ← List.drop_drop]
  exact missingLevels_drop _

/-- A later tree has lost an empty directory and is the same elsewhere. -/
structure LosesEmpty (gone : Location) (tree later : FileTree) : Prop where
  stood : tree.get? gone = some .directory
  vacant : ∀ name, tree.get? (name :: gone) = none
  get?_eq : ∀ location, later.get? location =
    if location = gone then none else tree.get? location

theorem LosesEmpty.addsDirectories (loses : LosesEmpty gone tree later) :
    AddsDirectories later tree := by
  intro location
  rw [loses.get?_eq]
  split
  · rename_i same
    exact .inr ⟨rfl, same ▸ loses.stood⟩
  · exact .inl rfl

theorem LosesEmpty.missingLevels (loses : LosesEmpty gone tree later) :
    Place.missingLevels later gone = 1 := by
  have goneLater : later.get? gone = none := by
    rw [loses.get?_eq, if_pos rfl]
  cases gone with
  | nil =>
      rw [get?_root] at goneLater
      cases goneLater
  | cons name parent =>
      have parentStood : tree.get? parent = some .directory :=
        get?_parent (by rw [loses.stood]; simp)
      have different : parent ≠ name :: parent := (List.cons_ne_self name parent).symm
      have parentStands : later.get? parent = some .directory := by
        rw [loses.get?_eq, if_neg different, parentStood]
      rw [Place.missingLevels, goneLater, if_neg (by simp),
        missingLevels_eq_zero_iff.mpr (.inr parentStands)]

/-- The directory in which relative paths start has been removed, or it stays as it is. -/
theorem LosesEmpty.settle_eq (loses : LosesEmpty gone tree later)
    (settled : base.settle tree = base) :
    base.location.drop base.removed = gone ∧
        base.settle later = { base with removed := base.removed + 1 } ∨
      base.settle later = base := by
  by_cases inside : base.location.drop base.removed = gone
  · left
    refine ⟨inside, ?_⟩
    rw [Place.settle, inside, loses.missingLevels]
  · right
    have stands : later.get? (base.location.drop base.removed) = some .directory := by
      rw [loses.get?_eq, if_neg inside, get?_of_settled settled]
    exact settle_eq_self_iff.mpr (missingLevels_eq_zero_iff.mpr (.inr stands))

/-- A way out of an empty directory can be taken as well from the directory once it is removed. -/
theorem walk_of_removed (vacant : ∀ name, tree.get? (name :: gone) = none) {start here : Place}
    {names : List Bytes} (inside : start.location.drop start.removed = gone)
    (walked : tree.walk start names = .ok here) (stays : here.isRemoved = false)
    (outside : here.location ≠ gone) :
    tree.walk { start with removed := start.removed + 1 } names = .ok here := by
  have directoryThen (place : Place) :
      tree.entryAt? { place with removed := place.removed + 1 } = some .directory :=
    if_pos (by simp [Place.isRemoved])
  induction names generalizing start with
  | nil =>
      cases walked
      have notRemoved : here.removed = 0 := by
        simpa [Place.isRemoved] using stays
      rw [notRemoved, List.drop_zero] at inside
      exact absurd inside outside
  | cons first rest inductionHypothesis =>
      rw [walk, List.foldlM_cons, bind_eq_ok_iff] at walked ⊢
      obtain ⟨there, entered, walkedOn⟩ := walked
      have directory := entryAt?_of_enter entered
      by_cases dot : first = Path.dot
      · subst dot
        rw [enter_dot directory] at entered
        cases entered
        exact ⟨_, enter_dot (directoryThen start), inductionHypothesis inside walkedOn⟩
      · by_cases dotDot : first = Path.dotDot
        · subst dotDot
          rw [enter_dotDot directory] at entered
          cases entered
          refine ⟨_, enter_dotDot (directoryThen start), ?_⟩
          cases removed : start.removed with
          | zero =>
              have same : Place.above { start with removed := 0 + 1 } = start.above := by
                simp [Place.above, removed]
              rw [same]
              exact walkedOn
          | succ levels =>
              have insideAbove : start.above.location.drop start.above.removed = gone := by
                rw [removed] at inside
                rw [Place.above, removed, Nat.add_sub_cancel, List.drop_tail, inside]
              have same :
                  Place.above { start with removed := levels + 1 + 1 } =
                    { start.above with removed := start.above.removed + 1 } := by
                simp [Place.above, removed]
              rw [same]
              exact inductionHypothesis insideAbove walkedOn
        · -- Nothing stands in the directory, so that no name leads on from it.
          obtain ⟨notRemoved, -, -, present, -⟩ := (enter_eq_ok_iff dot dotDot).mp entered
          have noneRemoved : start.removed = 0 := by
            simpa [Place.isRemoved] using notRemoved
          rw [noneRemoved, List.drop_zero] at inside
          rw [inside] at present
          exact absurd (vacant first) present

/-- Elsewhere, a path leads where it led, also if the directory in which relative paths start is the
one that has been removed. -/
theorem NamesEntry.of_losesEmpty (loses : LosesEmpty gone tree later)
    (settled : base.settle tree = base) (ends : path.EndsWithName before name)
    (names : tree.NamesEntry base path location) (outside : location.tail ≠ gone) :
    tree.NamesEntry (base.settle later) path location := by
  rcases loses.settle_eq settled with ⟨inside, settleEq⟩ | same
  · obtain ⟨usable, here, walked, stays, directory, rfl⟩ := (namesEntry_iff_walk ends).mp names
    refine (namesEntry_iff_walk ends).mpr ⟨usable, here, ?_, stays, directory, rfl⟩
    unfold startPlace at walked ⊢
    split
    · rename_i absolute
      rw [if_pos absolute] at walked
      exact walked
    · rename_i relative
      rw [if_neg relative] at walked
      rw [settleEq]
      exact walk_of_removed loses.vacant inside walked stays outside
  · rw [same]
    exact names

end RunManifest.FileTree
