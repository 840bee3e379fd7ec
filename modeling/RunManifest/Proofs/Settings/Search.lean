import Mathlib.Data.List.Find
import RunManifest.Proofs.Files.Existing
import RunManifest.Proofs.Outcomes
import RunManifest.Settings.File

/-!
# The search for settings

Settings come from the first path that leads to something.  Where a later tree has all that a tree
has, the search finds the same file in both unless the later tree has one that comes before it.
-/

namespace RunManifest.Settings

open FileTree Outcomes

variable {host other : Host} {later : FileTree} {settings : Settings} {path : Path}

/-- The paths at which settings are looked for. -/
def searched (host : Host) : List Path :=
  (namedFile? host).toList ++
    match host.currentDirectory with
    | .ok current => standardFiles host current
    | .error _ => []

theorem findFile_eq (host : Host) :
    findFile host =
      match (searched host).find? host.exists?, host.currentDirectory with
      | some path, _ => .ok (some path)
      | none, .ok _ => .ok none
      | none, .error error => .error (.system error) := by
  unfold findFile searched
  cases named : namedFile? host with
  | none =>
      cases current : host.currentDirectory with
      | error error =>
          rfl
      | ok directory =>
          simp only [Option.filter_none, Option.toList_none, List.nil_append]
          cases (standardFiles host directory).find? host.exists? with
          | none =>
              rfl
          | some path =>
              rfl
  | some path =>
      by_cases present : host.exists? path = true
      · rw [Option.filter_some_pos present]
        simp [present]
      · rw [Option.filter_some_neg (by simpa using present)]
        cases current : host.currentDirectory with
        | error error =>
            simp [present]
        | ok directory =>
            simp only [Option.toList_some, List.singleton_append, List.find?_cons, present]
            cases (standardFiles host directory).find? host.exists? with
            | none =>
                rfl
            | some path =>
                rfl

theorem readText_eq_ok_iff {text : Text} :
    readText host path = .ok text ↔
      ∃ content, host.files.readFile host.base path = .ok content ∧
        Utf8.decode content = .ok text := by
  unfold readText
  cases read : host.files.readFile host.base path with
  | error cause =>
      simp
  | ok content =>
      cases spells : Utf8.decode content with
      | error fault =>
          simp [spells]
      | ok found =>
          simp [spells]

/-- What is read from a file depends on what stands there alone. -/
theorem loadFrom_congr (present : host.exists? path = true)
    (same : other.files.lookup? other.base path = host.files.lookup? host.base path) :
    loadFrom other path = loadFrom host path := by
  obtain ⟨entry, looked⟩ := Option.isSome_iff_exists.mp present
  rw [looked] at same
  rw [loadFrom, loadFrom, readText, readText, readFile_of_lookup? looked,
    readFile_of_lookup? same]

/-! ## Later trees -/

end RunManifest.Settings
