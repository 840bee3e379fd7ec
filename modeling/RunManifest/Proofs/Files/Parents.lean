import Mathlib.Data.List.Induction
import RunManifest.Proofs.Files.Existing
import RunManifest.Proofs.Files.Steps

/-!
# Directories on the way

The parents of a path are written from its steps.  Each of them lies in the next one: it can be
followed to its last name exactly if the next one leads to a directory (`isWay_parents`).
-/

namespace RunManifest.FileTree

open Outcomes

variable {tree : FileTree} {base : Base} {path parent : Path}
variable {before : List Bytes} {name : Bytes}

/-- A path that the system follows at all. -/
structure IsUsable (path : Path) : Prop where
  noZero : 0 ∉ path
  present : path ≠ []
  short : path.length < pathLimit

instance (path : Path) : Decidable (IsUsable path) :=
  decidable_of_iff (0 ∉ path ∧ path ≠ [] ∧ path.length < pathLimit)
    ⟨fun ⟨noZero, present, short⟩ => ⟨noZero, present, short⟩,
      fun usable => ⟨usable.noZero, usable.present, usable.short⟩⟩

theorem IsUsable.of_sublist (usable : IsUsable path) (within : parent.Sublist path)
    (present : parent ≠ []) :
    IsUsable parent where
  noZero := fun member => usable.noZero (within.subset member)
  present := present
  short := Nat.lt_of_le_of_lt within.length_le usable.short

/-- The place at which a usable path starts. -/
def startPlace (base : Base) (path : Path) : Place :=
  if path.isAbsolute then .root else base

theorem startOf_of_isUsable (usable : IsUsable path) (base : Base) :
    startOf base path = .ok (startPlace base path) := by
  rw [startOf, if_neg usable.noZero, if_neg usable.present,
    if_neg (Nat.not_le.mpr usable.short), startPlace]
  split <;> rfl

theorem isUsable_of_startOf {start : Place} (started : startOf base path = .ok start) :
    IsUsable path := by
  unfold startOf at started
  split at started
  · cases started
  · split at started
    · cases started
    · split at started
      · cases started
      · exact ⟨‹_›, ‹_›, Nat.lt_of_not_le ‹_›⟩

theorem startOf_eq_ok_iff {start : Place} :
    startOf base path = .ok start ↔ IsUsable path ∧ start = startPlace base path := by
  constructor
  · intro started
    have usable := isUsable_of_startOf started
    rw [startOf_of_isUsable usable] at started
    cases started
    exact ⟨usable, rfl⟩
  · rintro ⟨usable, rfl⟩
    exact startOf_of_isUsable usable base

theorem startOf_of_not_isUsable (present : path ≠ []) (notUsable : ¬ IsUsable path)
    (base : Base) :
    ∃ cause, startOf base path = .error cause ∧ cause ≠ .notFound := by
  cases started : startOf base path with
  | ok start =>
      exact absurd (isUsable_of_startOf started) notUsable
  | error cause =>
      refine ⟨cause, rfl, ?_⟩
      rintro rfl
      unfold startOf at started
      rw [if_neg present] at started
      split at started
      · cases started
      · split at started
        · cases started
        · split at started <;> cases started

theorem walk_concat_eq_ok_iff {start there : Place} :
    tree.walk start (before ++ [name]) = .ok there ↔
      ∃ here, tree.walk start before = .ok here ∧ tree.enter here name = .ok there := by
  rw [walk, List.foldlM_append, bind_eq_ok_iff]
  refine exists_congr fun here => and_congr_right fun _ => ?_
  rw [List.foldlM_cons, bind_eq_ok_iff]
  constructor
  · rintro ⟨_, entered, same⟩
    cases same
    exact entered
  · intro entered
    exact ⟨there, entered, rfl⟩

/-- Dots change nothing of a way that ends in a directory. -/
theorem walk_eq_ok_iff_filter {start here : Place} {names : List Bytes}
    (directory : tree.entryAt? here = some .directory) :
    tree.walk start names = .ok here ↔
      tree.walk start (names.filter fun name => name ≠ Path.dot) = .ok here := by
  induction names generalizing start with
  | nil =>
      rfl
  | cons first rest inductionHypothesis =>
      by_cases isDot : first = Path.dot
      · rw [List.filter_cons_of_neg (by simpa using isDot), ← inductionHypothesis, isDot, walk,
          List.foldlM_cons, bind_eq_ok_iff]
        constructor
        · rintro ⟨there, entered, walked⟩
          rw [enter_dot (entryAt?_of_enter entered)] at entered
          cases entered
          exact walked
        · intro walked
          exact ⟨start, enter_dot (entryAt?_of_walk walked directory), walked⟩
      · rw [List.filter_cons_of_pos (by simpa using isDot), walk, walk, List.foldlM_cons,
          List.foldlM_cons, bind_eq_ok_iff, bind_eq_ok_iff]
        exact exists_congr fun there => and_congr_right fun _ => inductionHypothesis

theorem walk_eq_ok_iff_of_filter_eq {start here : Place} {names otherNames : List Bytes}
    (directory : tree.entryAt? here = some .directory)
    (same : (names.filter fun name => name ≠ Path.dot) =
      otherNames.filter fun name => name ≠ Path.dot) :
    tree.walk start names = .ok here ↔ tree.walk start otherNames = .ok here := by
  rw [walk_eq_ok_iff_filter directory, same, ← walk_eq_ok_iff_filter directory]

theorem isDirectory_iff_walk :
    tree.isDirectory base path = true ↔
      IsUsable path ∧ ∃ here, tree.walk (startPlace base path) (Path.names path) = .ok here ∧
        tree.entryAt? here = some .directory := by
  have idle : ((Path.names path ++ if path.endsWithSlash then [Path.dot] else []).filter
        fun name => name ≠ Path.dot) =
      (Path.names path).filter fun name => name ≠ Path.dot := by
    rw [List.filter_append]
    split <;> simp
  rw [isDirectory_eq_true_iff]
  constructor
  · rintro ⟨here, found, directory⟩
    rw [locate, bind_eq_ok_iff] at found
    obtain ⟨start, started, walked⟩ := found
    obtain ⟨usable, rfl⟩ := startOf_eq_ok_iff.mp started
    exact ⟨usable, here, (walk_eq_ok_iff_of_filter_eq directory idle).mp walked, directory⟩
  · rintro ⟨usable, here, walked, directory⟩
    refine ⟨here, ?_, directory⟩
    rw [locate, bind_eq_ok_iff]
    exact ⟨_, startOf_of_isUsable usable base,
      (walk_eq_ok_iff_of_filter_eq directory idle).mpr walked⟩

theorem exists_target_iff (namesEq : Path.names path = before ++ [name]) :
    (∃ target, tree.target base path = .ok target) ↔
      ∃ here, tree.reach base path before = .ok here ∧
        tree.entryAt? here = some .directory := by
  simp only [target_of_names_eq_concat namesEq, bind_eq_ok_iff]
  rw [exists_comm]
  refine exists_congr fun here => ?_
  rw [exists_and_left]
  refine and_congr_right fun _ => ?_
  unfold entryAt?
  split
  · simp
  · split
    · rename_i inside
      simp [inside]
    · rename_i outside
      simp [outside]

/-- A path can be followed to its last name exactly if the other one leads to a directory.  The
directory in which relative paths start is written as the empty path. -/
def LiesIn (base : Base) (path parent : Path) : Prop :=
  ∀ tree : FileTree, (∃ target, tree.target base path = .ok target) ↔
    parent = [] ∧ tree.entryAt? base = some .directory ∨ tree.isDirectory base parent = true

theorem liesIn_of_names (usable : IsUsable path) (within : parent.Sublist path)
    (namesEq : Path.names path = before ++ [name])
    (sameStart : parent.isAbsolute = path.isAbsolute)
    (sameSteps : (before.filter fun name => name ≠ Path.dot) =
      (Path.names parent).filter fun name => name ≠ Path.dot) :
    LiesIn base path parent := by
  intro tree
  have reached {here : Place} (directory : tree.entryAt? here = some .directory) :
      tree.reach base path before = .ok here ↔
        tree.walk (startPlace base parent) (Path.names parent) = .ok here := by
    rw [reach, startOf_of_isUsable usable, startPlace, startPlace, sameStart]
    exact walk_eq_ok_iff_of_filter_eq directory sameSteps
  rw [exists_target_iff namesEq, isDirectory_iff_walk]
  by_cases present : parent = []
  · subst present
    have relative : startPlace base [] = base := rfl
    rw [relative] at reached
    constructor
    · rintro ⟨here, found, directory⟩
      have walked := (reached directory).mp found
      cases walked
      exact .inl ⟨rfl, directory⟩
    · rintro (⟨-, directory⟩ | ⟨noPath, -⟩)
      · exact ⟨base, (reached directory).mpr rfl, directory⟩
      · exact absurd rfl noPath.present
  · constructor
    · rintro ⟨here, found, directory⟩
      exact .inr ⟨usable.of_sublist within present, here, (reached directory).mp found, directory⟩
    · rintro (⟨empty, -⟩ | ⟨-, here, walked, directory⟩)
      · exact absurd empty present
      · exact ⟨here, (reached directory).mpr walked, directory⟩

/-! ## Ways -/

/-- A path and the paths from it outwards, each of which lies in the next one, up to the root or to
the directory in which relative paths start. -/
inductive IsWay (base : Base) : Path → List Path → Prop
  | start : IsWay base [] []
  | root : IsWay base [Path.slash] []
  | step {path parent : Path} {parents : List Path} (present : path ≠ [])
      (liesIn : LiesIn base path parent) (way : IsWay base parent parents) :
      IsWay base path (parent :: parents)

/-- A path that has one named step more than another one lies in it. -/
theorem liesIn_join {step : Path.Component} (named : step.IsNamed)
    (usable : IsUsable (Path.join parent step.text)) :
    LiesIn base (Path.join parent step.text) parent := by
  have namesEq : Path.names (Path.join parent step.text) = Path.names parent ++ [step.text] := by
    rw [Path.names_join parent named.relative, named.names_text]
  exact liesIn_of_names usable (Path.sublist_join parent named.relative) namesEq
    (Path.isAbsolute_join_of_relative parent named.relative).symm rfl

theorem isWay_parentsOf {inner : List Path.Component} (named : ∀ step ∈ inner, step.IsNamed)
    (usable : inner ≠ [] → IsUsable (Path.ofComponents (Path.outerSteps path ++ inner))) :
    IsWay base (Path.ofComponents (Path.outerSteps path ++ inner))
      (Path.parentsOf (Path.outerSteps path ++ inner).reverse) := by
  induction inner using List.reverseRecOn with
  | nil =>
      unfold Path.outerSteps
      split
      · exact .root
      · exact .start
  | append_singleton inner step inductionHypothesis =>
      have stepNamed := named step (by simp)
      have innerNamed : ∀ step ∈ inner, step.IsNamed :=
        fun step member => named step (List.mem_append_left _ member)
      have parents :
          Path.parentsOf (Path.outerSteps path ++ (inner ++ [step])).reverse =
            Path.ofComponents (Path.outerSteps path ++ inner) ::
              Path.parentsOf (Path.outerSteps path ++ inner).reverse := by
        rw [← List.append_assoc, List.reverse_append, List.reverse_singleton,
          List.singleton_append, Path.parentsOf, List.reverse_reverse]
        exact fun same => absurd same stepNamed.ne_root
      have stepUsable := usable (by simp)
      rw [← List.append_assoc, Path.ofComponents_append_singleton] at stepUsable
      rw [parents, ← List.append_assoc, Path.ofComponents_append_singleton]
      refine .step stepUsable.present (liesIn_join stepNamed stepUsable)
        (inductionHypothesis innerNamed ?_)
      intro present
      exact stepUsable.of_sublist (Path.sublist_join _ stepNamed.relative)
        (Path.ofComponents_ne_nil path innerNamed present)

/-- The parents of a path in some directory are those of the directory, which come first. -/
theorem parents_join (directory : Path) {name : Bytes} (entry : Path.IsEntryName name) :
    Path.parents (Path.join directory name) =
      Path.ofComponents directory.components :: Path.parentsOf directory.components.reverse := by
  rw [Path.parents, entry.components_join, List.reverse_append, List.reverse_singleton,
    List.singleton_append, Path.parentsOf, List.reverse_reverse]
  exact nofun

/-- The path of an entry and its parents are a way. -/
theorem isWay_parents {directory : Path} {name : Bytes} (entry : Path.IsEntryName name)
    (usable : IsUsable (Path.join directory name)) (base : Base) :
    IsWay base (Path.join directory name) (Path.parents (Path.join directory name)) := by
  have named : ∀ step ∈ directory.innerSteps, step.IsNamed :=
    fun _ => Path.isNamed_of_mem_innerSteps
  have components := Path.components_eq_outerSteps_append directory
  have within : (Path.ofComponents directory.components).Sublist (Path.join directory name) :=
    (Path.ofComponents_components_sublist directory).trans
      (Path.sublist_join directory entry.relative)
  have namesEq : Path.names (Path.join directory name) = Path.names directory ++ [name] := by
    rw [Path.names_join directory entry.relative, entry.names_eq]
  have sameStart :
      (Path.ofComponents directory.components).isAbsolute =
        (Path.join directory name).isAbsolute := by
    rw [Path.isAbsolute_join_of_relative directory entry.relative, components,
      Path.isAbsolute_ofComponents directory named]
  have sameSteps :
      ((Path.names directory).filter fun name => name ≠ Path.dot) =
        (Path.names (Path.ofComponents directory.components)).filter
          fun name => name ≠ Path.dot := by
    rw [components, Path.names_ofComponents directory named, Path.filter_map_text_innerSteps]
  rw [parents_join directory entry]
  refine .step usable.present (liesIn_of_names usable within namesEq sameStart sameSteps) ?_
  rw [components] at within ⊢
  apply isWay_parentsOf named
  intro present
  exact usable.of_sublist within (Path.ofComponents_ne_nil directory named present)

end RunManifest.FileTree
