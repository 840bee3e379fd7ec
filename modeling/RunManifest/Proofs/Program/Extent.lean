import RunManifest.Proofs.Output.Extent
import RunManifest.Proofs.Program.Generating

/-!
# What runs change

Only a run that is asked for files and has a plan for them changes a file, and then nothing but what
the plan is about.
-/

namespace RunManifest.Surroundings

open OutputPaths Outcomes

variable {around : Surroundings} {source : Arguments.SourceOptions}
variable {outputDirectory? : Option Text} {arguments : List Text} {isDryRun : Bool}
variable {paths : OutputPaths} {artifacts : Artifacts} {failure : Failure}

theorem files_inspect (around : Surroundings) (source : Arguments.SourceOptions) :
    (around.inspect source).files = around.host.files := by
  unfold inspect
  split <;> rfl

theorem files_of_plan_error
    (asked : Arguments.parse arguments = .ok (.generate source outputDirectory? isDryRun))
    (planned : around.plan source outputDirectory? = .error failure) :
    (around.run arguments).files = around.host.files := by
  rw [run_of_plan_error asked planned]
  rfl

theorem files_of_dryRun
    (asked : Arguments.parse arguments = .ok (.generate source outputDirectory? true)) :
    (around.run arguments).files = around.host.files := by
  cases planned : around.plan source outputDirectory? with
  | error failure =>
      exact files_of_plan_error asked planned
  | ok pair =>
      rw [run_dry_of_plan asked planned]
      rfl

/-! ## Runs that write -/

theorem files_writeFiles (around : Surroundings) (paths : OutputPaths) (artifacts : Artifacts) :
    (around.writeFiles paths artifacts).files =
      (paths.write around.host.files around.host.base artifacts).files := by
  unfold writeFiles
  simp only
  split <;> rfl

/-- A run leaves all files as they are, unless it is asked to write some and gets as far as that.
Then it changes at most the directory for the name, the two files in it, and what is missing on the
way to it. -/
theorem changes_of_run (around : Surroundings) (arguments : List Text) :
    (∀ refusal, Arguments.parse arguments = .error refusal →
      (around.run arguments).files = around.host.files) ∧
    (Arguments.parse arguments = .ok .version →
      (around.run arguments).files = around.host.files) ∧
    (∀ source, Arguments.parse arguments = .ok (.inspect source) →
      (around.run arguments).files = around.host.files) ∧
    (∀ source outputDirectory?,
      Arguments.parse arguments = .ok (.generate source outputDirectory? true) →
        (around.run arguments).files = around.host.files) ∧
    (∀ source outputDirectory? failure,
      Arguments.parse arguments = .ok (.generate source outputDirectory? false) →
      around.plan source outputDirectory? = .error failure →
        (around.run arguments).files = around.host.files) ∧
    ∀ source outputDirectory? paths artifacts,
      Arguments.parse arguments = .ok (.generate source outputDirectory? false) →
      around.plan source outputDirectory? = .ok (paths, artifacts) →
        ∃ settings command root,
          around.readCommand source = .ok (settings, command) ∧
          around.host.absolute
            (Settings.outputRoot around.host (outputDirectory?.map Path.ofText) settings) =
              .ok root ∧
          paths.directory =
            Path.join root
              (Path.ofText (command.resolvedName (Name.numbered around.freshNumber))) ∧
          paths.manifest = Path.join paths.directory (Path.ofText "service.yml".toList) ∧
          paths.pipeline = Path.join paths.directory (Path.ofText "skaffold.yml".toList) ∧
          ∀ location,
            (around.run arguments).files.get? location ≠ around.host.files.get? location →
              MayChange around.host.files around.host.base paths location := by
  refine ⟨?_, ?_, ?_, ?_, ?_, ?_⟩
  · intro refusal refused
    rw [run, refused]
    cases refusal <;> rfl
  · intro asked
    rw [run_eq_answer asked]
    rfl
  · intro source asked
    rw [run_eq_answer asked]
    exact files_inspect around source
  · intro source outputDirectory? asked
    exact files_of_dryRun asked
  · intro source outputDirectory? failure asked planned
    exact files_of_plan_error asked planned
  · intro source outputDirectory? paths artifacts asked planned
    obtain ⟨settings, command, name, root, reference, parts⟩ := plan_eq_ok_iff.mp planned
    obtain ⟨-, directoryEq, manifestEq, pipelineEq⟩ := under_eq_ok_iff.mp parts.placed
    refine ⟨settings, command, root, parts.read, parts.rooted, ?_, manifestEq, pipelineEq, ?_⟩
    · rw [directoryEq, parts.named]
    · intro location differs
      have filesEq : (around.run arguments).files =
          (paths.write around.host.files around.host.base artifacts).files := by
        rw [run_real_of_plan asked planned]
        exact files_writeFiles around paths artifacts
      rw [filesEq] at differs
      exact (reached_write around.host.files around.host.base paths artifacts).changes location
        differs

/-- A system in which a directory stands in the way of the pipeline for `api`. -/
def blocked : Surroundings where
  host := { (bare {}).host with files := blockedFiles }
  platform := .linux
  input := []
  freshNumber := 11

def namesApi : Text := "docker run --name api nginx".toList

def namedApi : ContainerCommand where
  name? := some "api".toList
  daemon := false
  ports := []
  envVars := []
  image := "nginx".toList

def blockedArguments : List Text :=
  ["generate".toList, "-c".toList, namesApi, "-o".toList, "/out".toList]

theorem changes_of_blocked :
    (blocked.run blockedArguments).exitCode = 1 ∧
      (blocked.run blockedArguments).files.get? (inOutput "notes".toList) =
        blocked.host.files.get? (inOutput "notes".toList) := by
  have asked : Arguments.parse blockedArguments =
      .ok (.generate ⟨some namesApi, false⟩ (some "/out".toList) false) :=
    eq_ok_of_toOption (by decide +kernel)
  have present :
      (blocked.plan ⟨some namesApi, false⟩ (some "/out".toList)).toOption.isSome = true := by
    decide +kernel
  refine ⟨by decide +kernel, ?_⟩
  cases planned : blocked.plan ⟨some namesApi, false⟩ (some "/out".toList) with
  | error failure =>
      rw [planned] at present
      cases present
  | ok pair =>
      obtain ⟨paths, artifacts⟩ := pair
      obtain ⟨settings, command, root, read, rooted, directoryEq, manifestEq, pipelineEq, may⟩ :=
        (changes_of_run blocked blockedArguments).2.2.2.2.2 _ _ paths artifacts asked planned
      have readEq : blocked.readCommand ⟨some namesApi, false⟩ = .ok ({}, namedApi) :=
        eq_ok_of_toOption (by decide +kernel)
      rw [readEq] at read
      cases read
      have rootedEq : blocked.host.absolute (Settings.outputRoot blocked.host
          ((some "/out".toList).map Path.ofText) {}) = .ok (Path.ofText "/out".toList) :=
        eq_ok_of_toOption (by decide +kernel)
      rw [rootedEq] at rooted
      cases rooted
      have accepted : under (Path.ofText "/out".toList) "api".toList = .ok paths :=
        under_eq_ok_iff.mpr ⟨by decide, directoryEq, manifestEq, pipelineEq⟩
      have plain : Path.IsPlain (Path.ofText "/out".toList) := ⟨rfl, by decide⟩
      have stood : blocked.host.files.get? (inOutput "notes".toList) ≠ none := by
        decide +kernel
      refine Decidable.byContradiction fun differs => ?_
      have places := (may _ differs).location_eq accepted plain stood
      exact absurd places (by decide +kernel)

end RunManifest.Surroundings
