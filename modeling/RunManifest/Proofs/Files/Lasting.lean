import RunManifest.Proofs.Files.Parents

/-!
# What lasts when directories are made

Making directories opens ways that were blocked because something was missing, and no others: a
path that leads somewhere keeps leading there, and one that was refused for another reason is
refused for it again.
-/

namespace RunManifest.FileTree

open Outcomes

variable {tree middle later : FileTree} {base : Base} {path : Path}
variable {start here there : Place} {name : Bytes}

theorem entryAt?_of_addsDirectories (adds : AddsDirectories tree later) {entry : Entry}
    (stands : tree.entryAt? here = some entry) :
    later.entryAt? here = some entry := by
  unfold entryAt? at stands ⊢
  split
  · rename_i removed
    rw [if_pos removed] at stands
    exact stands
  · rename_i stays
    rw [if_neg stays] at stands
    exact adds.get?_eq stands

/-- More directories make a difference only where something is missing. -/
theorem enter_of_addsDirectories (adds : AddsDirectories tree later)
    (decided : tree.enter here name ≠ .error .notFound) :
    later.enter here name = tree.enter here name := by
  cases stands : tree.entryAt? here with
  | none =>
      exact absurd (by rw [enter, stands]) decided
  | some entry =>
      have standsLater := entryAt?_of_addsDirectories adds stands
      cases entry with
      | file content =>
          rw [enter, enter, stands, standsLater]
      | directory =>
          simp only [enter, stands, standsLater] at decided ⊢
          cases found : tree.get? (name :: here.location) with
          | none =>
              -- What is missing is not looked for if the name is decided without it.
              rw [found] at decided
              grind
          | some entry =>
              rw [adds.get?_eq found]

theorem walk_of_addsDirectories (adds : AddsDirectories tree later) {names : List Bytes}
    (decided : tree.walk start names ≠ .error .notFound) :
    later.walk start names = tree.walk start names := by
  induction names generalizing start with
  | nil =>
      rfl
  | cons first rest inductionHypothesis =>
      rw [walk, List.foldlM_cons] at decided
      rw [walk, walk, List.foldlM_cons, List.foldlM_cons]
      cases entered : tree.enter start first with
      | error cause =>
          rw [entered] at decided
          rw [enter_of_addsDirectories adds (by rw [entered]; exact decided), entered]
          rfl
      | ok there =>
          rw [entered] at decided
          rw [enter_of_addsDirectories adds (by simp [entered]), entered]
          exact inductionHypothesis decided

/-! ## Places that are left -/

/-- Of the directories on the way to a place, those that have not been removed are there. -/
def StandsIn (tree : FileTree) (place : Place) : Prop :=
  tree.get? (place.location.drop place.removed) ≠ none

theorem get?_of_settled (settled : base.settle tree = base) :
    tree.get? (base.location.drop base.removed) = some .directory := by
  rcases missingLevels_eq_zero_iff.mp (settle_eq_self_iff.mp settled) with root | directory
  · rw [root, get?_root]
  · exact directory

theorem entryAt?_of_settled (settled : base.settle tree = base) :
    tree.entryAt? base = some .directory := by
  have directory := get?_of_settled settled
  unfold entryAt?
  split
  · rfl
  · rename_i stays
    have notRemoved : base.removed = 0 := by
      simpa [Place.isRemoved] using stays
    rwa [notRemoved, List.drop_zero] at directory

theorem standsIn_startPlace (settled : base.settle tree = base) (path : Path) :
    tree.StandsIn (startPlace base path) := by
  unfold StandsIn startPlace
  split
  · simp [Place.root]
  · simp [get?_of_settled settled]

theorem enter_dotDot (directory : tree.entryAt? here = some .directory) :
    tree.enter here Path.dotDot = .ok here.above := by
  have different : Path.dotDot ≠ Path.dot := by
    decide
  simp [enter, directory, different]

theorem standsIn_of_enter (stands : tree.StandsIn here)
    (entered : tree.enter here name = .ok there) :
    tree.StandsIn there := by
  have directory := entryAt?_of_enter entered
  by_cases dot : name = Path.dot
  · rw [dot, enter_dot directory] at entered
    cases entered
    exact stands
  · by_cases dotDot : name = Path.dotDot
    · rw [dotDot, enter_dotDot directory] at entered
      cases entered
      rw [StandsIn, Place.above]
      cases removed : here.removed with
      | zero =>
          rw [entryAt?_of_not_removed (by simp [Place.isRemoved, removed])] at directory
          rw [Nat.zero_sub, List.drop_zero]
          cases location : here.location with
          | nil =>
              simp
          | cons first rest =>
              rw [location] at directory
              have present : tree.get? (first :: rest) ≠ none := by
                simp [directory]
              simp [get?_parent present]
      | succ levels =>
          rw [StandsIn, removed] at stands
          rwa [Nat.add_sub_cancel, List.drop_tail]
    · obtain ⟨-, -, -, present, rfl⟩ := (enter_eq_ok_iff dot dotDot).mp entered
      exact present

theorem standsIn_of_walk (stands : tree.StandsIn start) {names : List Bytes}
    (walked : tree.walk start names = .ok here) :
    tree.StandsIn here := by
  induction names generalizing start with
  | nil =>
      cases walked
      exact stands
  | cons first rest inductionHypothesis =>
      rw [walk, List.foldlM_cons, bind_eq_ok_iff] at walked
      obtain ⟨there, entered, walkedOn⟩ := walked
      exact inductionHypothesis (standsIn_of_enter stands entered) walkedOn

theorem entryAt?_of_standsIn (adds : AddsDirectories tree later) (stands : tree.StandsIn here)
    (directory : later.entryAt? here = some .directory) :
    tree.entryAt? here = some .directory := by
  unfold entryAt? at directory ⊢
  split
  · rfl
  · rename_i stays
    rw [if_neg stays] at directory
    rcases adds here.location with same | ⟨absent, -⟩
    · rw [← same, directory]
    · have notRemoved : here.removed = 0 := by
        simpa [Place.isRemoved] using stays
      rw [StandsIn, notRemoved, List.drop_zero] at stands
      exact absurd absent stands

theorem reach_of_addsDirectories (adds : AddsDirectories tree later) {names : List Bytes}
    (decided : tree.reach base path names ≠ .error .notFound) :
    later.reach base path names = tree.reach base path names := by
  unfold reach at decided ⊢
  cases started : startOf base path with
  | error cause =>
      rfl
  | ok start =>
      rw [started] at decided
      exact walk_of_addsDirectories adds decided

theorem standsIn_of_reach (settled : base.settle tree = base) {names : List Bytes}
    (reached : tree.reach base path names = .ok here) :
    tree.StandsIn here := by
  rw [reach, bind_eq_ok_iff] at reached
  obtain ⟨start, started, walked⟩ := reached
  obtain ⟨-, rfl⟩ := startOf_eq_ok_iff.mp started
  exact standsIn_of_walk (standsIn_startPlace settled path) walked

/-- If a path cannot be followed for another reason than that something is missing, it stays so. -/
theorem target_of_addsDirectories (adds : AddsDirectories tree later)
    (settled : base.settle tree = base) {cause : SystemError} (decided : cause ≠ .notFound)
    (refused : tree.target base path = .error cause) :
    later.target base path = .error cause := by
  rcases List.eq_nil_or_concat (Path.names path) with bare | ⟨before, name, concat⟩
  · rw [target_of_names_eq_nil bare] at refused ⊢
    cases started : startOf base path with
    | error _ =>
        rw [started] at refused
        cases refused
        rfl
    | ok start =>
        rw [started] at refused
        cases refused
  · have namesEq : Path.names path = before ++ [name] := by
      rw [concat, List.concat_eq_append]
    rw [target_of_names_eq_concat namesEq] at refused ⊢
    cases reached : tree.reach base path before with
    | error _ =>
        rw [reached] at refused
        cases refused
        have same : later.reach base path before = .error cause := by
          rw [reach_of_addsDirectories adds (by simp [reached, decided]), reached]
        rw [same]
        rfl
    | ok here =>
        have stands := standsIn_of_reach settled reached
        have same : later.reach base path before = .ok here := by
          rw [reach_of_addsDirectories adds (by simp [reached]), reached]
        rw [reached] at refused
        rw [same]
        change (if here.isRemoved then _ else _) = _ at refused
        change (if here.isRemoved then _ else _) = _
        split at refused
        · cases refused
        · rename_i stays
          split at refused
          · cases refused
          · rename_i outside
            cases refused
            have notRemoved : here.removed = 0 := by
              simpa [Place.isRemoved] using stays
            rw [StandsIn, notRemoved, List.drop_zero] at stands
            have outsideLater : later.get? here.location ≠ some .directory := by
              rcases adds here.location with sameEntry | ⟨absent, -⟩
              · rw [sameEntry]
                exact outside
              · exact absurd absent stands
            rw [if_neg stays, dif_neg outsideLater]

theorem AddsDirectories.trans (first : AddsDirectories tree middle)
    (second : AddsDirectories middle later) :
    AddsDirectories tree later := by
  intro location
  rcases second location with same | ⟨absent, added⟩
  · rw [same]
    exact first location
  · rcases first location with same | ⟨_, addedBefore⟩
    · exact .inr ⟨same ▸ absent, added⟩
    · rw [absent] at addedBefore
      cases addedBefore

end RunManifest.FileTree
