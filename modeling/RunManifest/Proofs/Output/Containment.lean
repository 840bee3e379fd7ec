import RunManifest.Proofs.Name
import RunManifest.Proofs.Output.Course

/-!
# Where files are placed

The directory for a container is one step below the root, whichever way the root is written, and
its files are one step below the directory.  Two names under one root share nothing.
-/

namespace RunManifest

namespace Path

variable {path left right : Path}

/-- A path leads to a directory or to something below it. -/
def LeadsInto (path directory : Path) : Prop :=
  directory.components <+: path.components

/-- Nothing is in two directories that differ in their last steps alone. -/
theorem not_leadsInto_of_siblings
    {steps : List Component} {first second : Component} (different : first ≠ second)
    (leftEq : left.components = steps ++ [first])
    (rightEq : right.components = steps ++ [second])
    (inLeft : path.LeadsInto left) :
    ¬ path.LeadsInto right := by
  intro inRight
  -- Two prefixes of one list that are equally long are the same.
  have sameLength : left.components.length = right.components.length := by
    simp [leftEq, rightEq]
  have within : left.components <+: right.components :=
    List.prefix_of_prefix_length_le inLeft inRight (Nat.le_of_eq sameLength)
  have same : left.components = right.components := within.eq_of_length sameLength
  rw [leftEq, rightEq] at same
  have sameEnd := List.append_cancel_left same
  injection sameEnd with sameStep
  exact different sameStep

end Path

namespace OutputPaths

variable {root : Path} {name other : Text} {paths others : OutputPaths}

/-- The two files that are written. -/
def files (paths : OutputPaths) : List Path :=
  [paths.manifest, paths.pipeline]

/-- The directory is one step below a root, the one with a name, and the files are one step below
the directory. -/
structure Confined (paths : OutputPaths) (root : Path) (name : Text) : Prop where
  directory :
    paths.directory.components = root.components ++ [.normal (Path.ofText name)]
  manifest :
    paths.manifest.components =
      paths.directory.components ++ [.normal (Path.ofText "service.yml".toList)]
  pipeline :
    paths.pipeline.components =
      paths.directory.components ++ [.normal (Path.ofText "skaffold.yml".toList)]

theorem Confined.leadsInto (confined : Confined paths root name) :
    ∀ file ∈ paths.files, file.LeadsInto paths.directory := by
  intro file member
  rw [files, List.mem_cons, List.mem_singleton] at member
  rcases member with rfl | rfl
  · exact ⟨_, confined.manifest.symm⟩
  · exact ⟨_, confined.pipeline.symm⟩

theorem exists_under (root : Path) (accepted : Name.isComponent name = true) :
    ∃ paths, under root name = .ok paths := by
  rw [under, Name.check_eq_ok_iff.mpr accepted]
  exact ⟨_, rfl⟩

theorem confined_of_under (accepted : under root name = .ok paths) :
    Confined paths root name := by
  obtain ⟨component, directoryEq, manifestEq, pipelineEq⟩ := under_eq_ok_iff.mp accepted
  refine ⟨?_, ?_, ?_⟩
  · rw [directoryEq]
    exact (Name.isEntryName_of_isComponent component).components_join root
  · rw [manifestEq]
    exact (Name.isEntryName_of_isComponent (by decide)).components_join paths.directory
  · rw [pipelineEq]
    exact (Name.isEntryName_of_isComponent (by decide)).components_join paths.directory

/-- Neither directory is the other one or lies in it, and nothing lies in both, so that no file of
one is a file of the other. -/
structure Apart (paths others : OutputPaths) : Prop where
  different : paths.directory.components ≠ others.directory.components
  notAround : ¬ others.directory.LeadsInto paths.directory
  notWithin : ¬ paths.directory.LeadsInto others.directory
  nothingShared : ∀ path : Path,
    path.LeadsInto paths.directory → ¬ path.LeadsInto others.directory
  noFileShared :
    ∀ file ∈ paths.files, ∀ otherFile ∈ others.files, file.components ≠ otherFile.components

theorem Confined.apart
    (confined : Confined paths root name) (otherConfined : Confined others root other)
    (differ : name ≠ other) :
    Apart paths others := by
  have differentSteps :
      Path.Component.normal (Path.ofText name) ≠ .normal (Path.ofText other) := by
    intro same
    injection same with sameForm
    exact differ (Path.ofText_injective sameForm)
  have nothingShared (path : Path) (inFirst : path.LeadsInto paths.directory) :
      ¬ path.LeadsInto others.directory :=
    Path.not_leadsInto_of_siblings differentSteps confined.directory otherConfined.directory
      inFirst
  refine ⟨?_, ?_, ?_, nothingShared, ?_⟩
  · intro same
    have within : paths.directory.LeadsInto others.directory :=
      ⟨[], (List.append_nil _).trans same.symm⟩
    exact nothingShared paths.directory List.prefix_rfl within
  · intro around
    exact nothingShared others.directory around List.prefix_rfl
  · exact nothingShared paths.directory List.prefix_rfl
  · intro file member otherFile otherMember same
    have inOther : Path.LeadsInto file others.directory := by
      rw [Path.LeadsInto, same]
      exact otherConfined.leadsInto otherFile otherMember
    exact nothingShared file (confined.leadsInto file member) inOther

/-- A name is accepted unless it is empty, holds a separator or is one of the two special ones.  No
other name has paths, an accepted one has paths confined to the root, and two of them are kept
apart. -/
theorem under_confines (root : Path) (name : Text) :
    (∀ operation, Name.check operation name = .ok () ↔
      name ≠ [] ∧ '/' ∉ name ∧ '\\' ∉ name ∧ name ≠ ".".toList ∧ name ≠ "..".toList) ∧
    (∀ operation, Name.check operation name ≠ .ok () →
      under root name = .error ⟨"artifact_paths".toList, .invalidName name⟩) ∧
    (∀ operation, Name.check operation name = .ok () →
      ∃ paths, under root name = .ok paths ∧ Confined paths root name) ∧
    ∀ other paths others, name ≠ other →
      under root name = .ok paths → under root other = .ok others → Apart paths others := by
  refine ⟨?_, ?_, ?_, ?_⟩
  · intro operation
    rw [Name.check_eq_ok_iff, Name.isComponent_iff]
  · intro operation refused
    rw [Ne, Name.check_eq_ok_iff] at refused
    rw [under, Name.check, if_neg refused]
    rfl
  · intro operation accepted
    obtain ⟨paths, placed⟩ := exists_under root (Name.check_eq_ok_iff.mp accepted)
    exact ⟨paths, placed, confined_of_under placed⟩
  · intro other paths others differ placed otherPlaced
    exact (confined_of_under placed).apart (confined_of_under otherPlaced) differ

def dottedRoot : Path := Path.ofText "./envs/../out//".toList

theorem under_confines_dottedRoot :
    Name.check [] "api".toList = .ok () ∧ Name.check [] "../api".toList ≠ .ok () ∧
      under dottedRoot "../api".toList =
        .error ⟨"artifact_paths".toList, .invalidName "../api".toList⟩ ∧
      ∃ paths others, under dottedRoot "api".toList = .ok paths ∧
        under dottedRoot "..api".toList = .ok others ∧
        Confined paths dottedRoot "api".toList ∧ Apart paths others := by
  have accepted : Name.check [] "api".toList = .ok () := rfl
  have acceptedToo : Name.check [] "..api".toList = .ok () := rfl
  have refused : Name.check [] "../api".toList ≠ .ok () := by
    rw [Ne, Name.check_eq_ok_iff]
    decide
  obtain ⟨-, -, placing, keepsApart⟩ := under_confines dottedRoot "api".toList
  obtain ⟨paths, placed, confined⟩ := placing [] accepted
  obtain ⟨others, placedToo, -⟩ := (under_confines dottedRoot "..api".toList).2.2.1 [] acceptedToo
  exact ⟨accepted, refused, (under_confines dottedRoot "../api".toList).2.1 [] refused,
    paths, others, placed, placedToo, confined,
    keepsApart "..api".toList paths others (by decide) placed placedToo⟩

end OutputPaths

end RunManifest
