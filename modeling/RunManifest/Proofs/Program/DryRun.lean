import RunManifest.Proofs.Program.Generating

/-!
# Dry runs

A dry run plans as the real run does and only shows what that would write.  If no name has to be
made up, the two plans are the same, so that they can only end differently when files are written.
-/

namespace RunManifest.Surroundings

open Outcomes

variable {around : Surroundings} {source : Arguments.SourceOptions}
variable {outputDirectory? : Option Text} {arguments dryArguments : List Text} {number : Nat}
variable {paths : OutputPaths} {artifacts : Artifacts} {failure : Failure}

/-- The command line, if it says what to run, also says under which name. -/
def NamesItself (around : Surroundings) (source : Arguments.SourceOptions) : Prop :=
  ∀ settings command, around.readCommand source = .ok (settings, command) → command.name? ≠ none

theorem plan_renumbered (number : Nat) (named : around.NamesItself source) :
    (around.renumbered number).plan source outputDirectory? =
      around.plan source outputDirectory? := by
  cases read : around.readCommand source with
  | error failure =>
      have readLater := (readCommand_renumbered around source number).trans read
      rw [plan_of_read_error read, plan_of_read_error readLater]
  | ok pair =>
      obtain ⟨settings, command⟩ := pair
      have readLater := (readCommand_renumbered around source number).trans read
      obtain ⟨name, nameEq⟩ := Option.ne_none_iff_exists'.mp (named settings command read)
      have sameName (fallback : Text) : command.resolvedName fallback = name := by
        rw [ContainerCommand.resolvedName, nameEq, Option.getD_some]
      rw [plan_of_read read, plan_of_read readLater, sameName, sameName]
      rfl

/-! ## The two runs -/

/-- What a dry run has to do with the real run in its place.  Where the real run succeeds, the dry
run shows what is then found in the files; where the dry run succeeds, the real run can only fail
in writing; and where the dry run fails, the real run fails in the same way. -/
structure Foretells
    (around : Surroundings) (source : Arguments.SourceOptions) (outputDirectory? : Option Text)
    (dry real : Outcome) : Prop where
  shown : real.exitCode = 0 →
    dry.exitCode = 0 ∧
      ∃ settings command name root paths manifest pipeline,
        around.readCommand source = .ok (settings, command) ∧ command.name? = some name ∧
        around.host.absolute
          (Settings.outputRoot around.host (outputDirectory?.map Path.ofText) settings) =
            .ok root ∧
        OutputPaths.under root name = .ok paths ∧
        real.files.readFile around.host.base paths.manifest = .ok (Utf8.encode manifest) ∧
        real.files.readFile around.host.base paths.pipeline = .ok (Utf8.encode pipeline) ∧
        dry.standardOutput = manifest ++ "---\n".toList ++ pipeline
  met : dry.exitCode = 0 →
    real.exitCode = 0 ∨
      real.exitCode = 1 ∧ ∃ paths artifacts failure,
        around.plan source outputDirectory? = .ok (paths, artifacts) ∧
        (paths.write around.host.files around.host.base artifacts).outcome = .error failure ∧
        real.standardError = (Failure.write failure).report
  refused : dry.exitCode ≠ 0 →
    real.exitCode = dry.exitCode ∧ real.standardError = dry.standardError ∧
      real.warnings = dry.warnings ∧ real.files = around.host.files

theorem foretells_of_plan_error
    (asked : Arguments.parse arguments = .ok (.generate source outputDirectory? false))
    (askedDry : Arguments.parse dryArguments = .ok (.generate source outputDirectory? true))
    (named : around.NamesItself source)
    (planned : around.plan source outputDirectory? = .error failure) :
    Foretells around source outputDirectory?
      ((around.renumbered number).run dryArguments) (around.run arguments) := by
  have plannedDry := (plan_renumbered number named).trans planned
  rw [run_of_plan_error asked planned, run_of_plan_error askedDry plannedDry]
  constructor
  · intro succeeded
    cases succeeded
  · intro succeeded
    cases succeeded
  · intro _
    exact ⟨rfl, rfl, rfl, rfl⟩

theorem foretells_of_plan
    (asked : Arguments.parse arguments = .ok (.generate source outputDirectory? false))
    (askedDry : Arguments.parse dryArguments = .ok (.generate source outputDirectory? true))
    (named : around.NamesItself source)
    (planned : around.plan source outputDirectory? = .ok (paths, artifacts)) :
    Foretells around source outputDirectory?
      ((around.renumbered number).run dryArguments) (around.run arguments) := by
  have plannedDry := (plan_renumbered number named).trans planned
  have dryEq := run_dry_of_plan askedDry plannedDry
  constructor
  · intro succeeded
    obtain ⟨_, _, plannedToo, written⟩ := exists_plan_of_run asked succeeded
    rw [planned] at plannedToo
    cases plannedToo
    obtain ⟨settings, command, name, root, reference, parts⟩ := plan_eq_ok_iff.mp planned
    have holds := OutputPaths.holds_of_write parts.placed (by rw [written])
    rw [written] at holds
    have nameEq : command.name? = some name := by
      obtain ⟨given, givenEq⟩ :=
        Option.ne_none_iff_exists'.mp (named settings command parts.read)
      rw [parts.named, ContainerCommand.resolvedName, givenEq, Option.getD_some]
    refine ⟨?_, settings, command, name, root, paths, artifacts.manifest, artifacts.pipeline,
      parts.read, nameEq, parts.rooted, parts.placed, holds.readManifest, holds.readPipeline, ?_⟩
    · rw [dryEq]
      rfl
    · rw [dryEq]
      rfl
  · intro _
    rcases run_cases_of_plan asked planned with ⟨-, met, -⟩ | ⟨failure, ended, refused, told⟩
    · exact .inl met
    · exact .inr ⟨refused, paths, artifacts, failure, planned, ended, told⟩
  · intro failed
    rw [dryEq] at failed
    exact absurd rfl failed

/-- A dry run foretells the real run, if the command line gives the name. -/
theorem foretells_of_dryRun
    (asked : Arguments.parse arguments = .ok (.generate source outputDirectory? false))
    (askedDry : Arguments.parse dryArguments = .ok (.generate source outputDirectory? true))
    (named : around.NamesItself source) (number : Nat) :
    Foretells around source outputDirectory?
      ((around.renumbered number).run dryArguments) (around.run arguments) := by
  cases planned : around.plan source outputDirectory? with
  | error failure =>
      exact foretells_of_plan_error asked askedDry named planned
  | ok pair =>
      exact foretells_of_plan asked askedDry named planned

def dashed : Text := "docker run --name=db -e 'A=---' -p 53:53/udp postgres".toList

def dashedArguments : List Text :=
  ["generate".toList, "-c".toList, dashed, "-o".toList, "/envs".toList]

def dashedCommand : ContainerCommand where
  name? := some "db".toList
  daemon := false
  ports := [⟨53, 53, .udp⟩]
  envVars := [⟨"A".toList, "---".toList⟩]
  image := "postgres".toList

theorem foretells_of_dashed :
    ((bare {}).run dashedArguments).exitCode = 0 ∧
      (((bare {}).renumbered 12).run (dashedArguments ++ ["--dry-run".toList])).exitCode = 0 ∧
      ∃ paths manifest pipeline,
        OutputPaths.under (Path.ofText "/envs".toList) "db".toList = .ok paths ∧
        ((bare {}).run dashedArguments).files.readFile .root paths.manifest =
          .ok (Utf8.encode manifest) ∧
        ((bare {}).run dashedArguments).files.readFile .root paths.pipeline =
          .ok (Utf8.encode pipeline) ∧
        (((bare {}).renumbered 12).run
          (dashedArguments ++ ["--dry-run".toList])).standardOutput =
            manifest ++ "---\n".toList ++ pipeline := by
  have asked : Arguments.parse dashedArguments =
      .ok (.generate ⟨some dashed, false⟩ (some "/envs".toList) false) :=
    eq_ok_of_toOption (by decide +kernel)
  have askedDry : Arguments.parse (dashedArguments ++ ["--dry-run".toList]) =
      .ok (.generate ⟨some dashed, false⟩ (some "/envs".toList) true) :=
    eq_ok_of_toOption (by decide +kernel)
  have read : (bare {}).readCommand ⟨some dashed, false⟩ = .ok ({}, dashedCommand) := rfl
  have named : (bare {}).NamesItself ⟨some dashed, false⟩ := by
    intro settings command readToo
    rw [read] at readToo
    cases readToo
    exact Option.some_ne_none _
  have succeeded : ((bare {}).run dashedArguments).exitCode = 0 := by
    decide +kernel
  obtain ⟨drySucceeded, settings, command, name, root, paths, manifest, pipeline, readToo,
    nameEq, rooted, placed, manifestStands, pipelineStands, output⟩ :=
    (foretells_of_dryRun asked askedDry named 12).shown succeeded
  rw [read] at readToo
  cases readToo
  cases nameEq
  have rootedEq : (bare {}).host.absolute (Settings.outputRoot (bare {}).host
      ((some "/envs".toList).map Path.ofText) {}) = .ok (Path.ofText "/envs".toList) := rfl
  rw [rootedEq] at rooted
  cases rooted
  exact ⟨succeeded, drySucceeded, paths, manifest, pipeline, placed, manifestStands,
    pipelineStands, output⟩

end RunManifest.Surroundings
