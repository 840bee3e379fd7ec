import RunManifest.Program.Run
import RunManifest.Proofs.Output.Completed

/-!
# Runs that write files

A run that has been asked for files and exits with zero has had a plan, and its attempt to write
that plan has succeeded.  Each part of a plan comes from the parts before it (`Plan`).
-/

namespace RunManifest.Surroundings

open Outcomes

variable {around : Surroundings} {source : Arguments.SourceOptions}
variable {outputDirectory? : Option Text} {arguments : List Text}
variable {settings : Settings} {text name reference : Text} {command : ContainerCommand}
variable {root : Path} {paths : OutputPaths} {artifacts : Artifacts} {failure : Failure}

theorem readCommand_eq_ok_iff :
    around.readCommand source = .ok (settings, command) ↔
      ∃ text, around.readSource source = .ok (settings, text) ∧
        ContainerCommand.parse settings.defaultProtocol text = .ok command := by
  rw [readCommand, bind_eq_ok_iff]
  constructor
  · rintro ⟨⟨found, text⟩, read, rest⟩
    rw [bind_eq_ok_iff] at rest
    obtain ⟨parsed, parsedEq, whole⟩ := rest
    cases whole
    exact ⟨text, read, mapError_eq_ok_iff.mp parsedEq⟩
  · rintro ⟨text, read, parsed⟩
    refine ⟨(settings, text), read, ?_⟩
    rw [bind_eq_ok_iff]
    exact ⟨command, mapError_eq_ok_iff.mpr parsed, rfl⟩

theorem outputPaths_eq_ok_iff {given? : Option Path} :
    around.outputPaths settings given? name = .ok paths ↔
      ∃ root, around.host.absolute (Settings.outputRoot around.host given? settings) = .ok root ∧
        OutputPaths.under root name = .ok paths := by
  rw [outputPaths, bind_eq_ok_iff]
  simp only [mapError_eq_ok_iff]

theorem artifacts_eq_ok_iff {schema : SchemaVersions} {result : Artifacts} :
    Surroundings.artifacts paths command name schema = .ok result ↔
      ∃ reference, paths.reference? = some reference ∧
        Artifacts.render command name reference schema = .ok result := by
  unfold Surroundings.artifacts
  cases paths.reference? with
  | none =>
      simp
  | some reference =>
      simp [mapError_eq_ok_iff]

/-- The name of a container is its own, and nothing is drawn, or the one number that is drawn tells
it. -/
theorem run_resolveName (command : ContainerCommand) (number : Nat) :
    (command.resolveName Name.draw : StateT Nat (Except Failure) Text).run number =
      .ok (command.resolvedName (Name.numbered number),
        if command.name? = none then number + 1 else number) := by
  unfold ContainerCommand.resolveName ContainerCommand.resolvedName
  cases command.name? with
  | none =>
      rfl
  | some name =>
      rfl

/-- Of the supply of numbers a plan uses the first one at most. -/
theorem plan_eq (around : Surroundings) (source : Arguments.SourceOptions)
    (outputDirectory? : Option Text) :
    around.plan source outputDirectory? =
      around.readCommand source >>= fun read =>
        let name := read.2.resolvedName (Name.numbered around.freshNumber)
        around.outputPaths read.1 (outputDirectory?.map Path.ofText) name >>= fun paths =>
          Surroundings.artifacts paths read.2 name read.1.schema >>= fun files =>
            pure (paths, files) := by
  unfold plan planning
  simp only [StateT.run'_eq, StateT.run_bind, StateT.run_monadLift, StateT.run_pure, monadLift_self,
    bind_assoc, pure_bind, map_bind, map_pure, run_resolveName]
  rfl

/-- The parts of a plan. -/
structure Plan
    (around : Surroundings) (source : Arguments.SourceOptions) (outputDirectory? : Option Text)
    (settings : Settings) (command : ContainerCommand) (name : Text) (root : Path)
    (reference : Text) (paths : OutputPaths) (artifacts : Artifacts) : Prop where
  read : around.readCommand source = .ok (settings, command)
  named : name = command.resolvedName (Name.numbered around.freshNumber)
  rooted :
    around.host.absolute
      (Settings.outputRoot around.host (outputDirectory?.map Path.ofText) settings) = .ok root
  placed : OutputPaths.under root name = .ok paths
  spelt : paths.reference? = some reference
  rendered : Artifacts.render command name reference settings.schema = .ok artifacts

theorem plan_eq_ok_iff :
    around.plan source outputDirectory? = .ok (paths, artifacts) ↔
      ∃ settings command name root reference,
        Plan around source outputDirectory? settings command name root reference paths
          artifacts := by
  rw [plan_eq, bind_eq_ok_iff]
  constructor
  · rintro ⟨⟨settings, command⟩, read, rest⟩
    rw [bind_eq_ok_iff] at rest
    obtain ⟨found, placed, rest⟩ := rest
    rw [bind_eq_ok_iff] at rest
    obtain ⟨files, made, whole⟩ := rest
    cases whole
    obtain ⟨root, rooted, under⟩ := outputPaths_eq_ok_iff.mp placed
    obtain ⟨reference, spelt, rendered⟩ := artifacts_eq_ok_iff.mp made
    exact ⟨settings, command, _, root, reference, read, rfl, rooted, under, spelt, rendered⟩
  · rintro ⟨settings, command, name, root, reference, parts⟩
    obtain ⟨read, rfl, rooted, placed, spelt, rendered⟩ := parts
    refine ⟨(settings, command), read, ?_⟩
    rw [bind_eq_ok_iff]
    refine ⟨paths, outputPaths_eq_ok_iff.mpr ⟨root, rooted, placed⟩, ?_⟩
    rw [bind_eq_ok_iff]
    exact ⟨artifacts, artifacts_eq_ok_iff.mpr ⟨reference, spelt, rendered⟩, rfl⟩

theorem plan_of_read_error
    (unread : around.readCommand source = .error failure) :
    around.plan source outputDirectory? = .error failure := by
  rw [plan_eq, unread]
  rfl

theorem plan_of_read (read : around.readCommand source = .ok (settings, command)) :
    around.plan source outputDirectory? =
      around.outputPaths settings (outputDirectory?.map Path.ofText)
          (command.resolvedName (Name.numbered around.freshNumber)) >>= fun paths =>
        (Surroundings.artifacts paths command
          (command.resolvedName (Name.numbered around.freshNumber)) settings.schema).map
            fun files => (paths, files) := by
  rw [plan_eq, read]
  rfl

/-! ## Runs -/

theorem run_eq_answer {request : Arguments.Request}
    (asked : Arguments.parse arguments = .ok request) :
    around.run arguments = around.answer request := by
  rw [run, asked]

theorem run_of_plan_error {isDryRun : Bool}
    (asked : Arguments.parse arguments = .ok (.generate source outputDirectory? isDryRun))
    (planned : around.plan source outputDirectory? = .error failure) :
    around.run arguments = around.warned source (around.fail failure) := by
  rw [run_eq_answer asked, answer, generate, planned]

theorem run_dry_of_plan
    (asked : Arguments.parse arguments = .ok (.generate source outputDirectory? true))
    (planned : around.plan source outputDirectory? = .ok (paths, artifacts)) :
    around.run arguments = around.warned source (around.succeed artifacts.shown) := by
  rw [run_eq_answer asked, answer, generate, planned]
  rfl

theorem run_real_of_plan
    (asked : Arguments.parse arguments = .ok (.generate source outputDirectory? false))
    (planned : around.plan source outputDirectory? = .ok (paths, artifacts)) :
    around.run arguments = around.warned source (around.writeFiles paths artifacts) := by
  rw [run_eq_answer asked, answer, generate, planned]
  rfl

/-- A run with a plan ends as its attempt to write the files does. -/
theorem run_cases_of_plan
    (asked : Arguments.parse arguments = .ok (.generate source outputDirectory? false))
    (planned : around.plan source outputDirectory? = .ok (paths, artifacts)) :
    ((paths.write around.host.files around.host.base artifacts).outcome = .ok () ∧
      (around.run arguments).exitCode = 0 ∧ (around.run arguments).standardError = []) ∨
    ∃ failure,
      (paths.write around.host.files around.host.base artifacts).outcome = .error failure ∧
      (around.run arguments).exitCode = 1 ∧
      (around.run arguments).standardError = (Failure.write failure).report := by
  rw [run_real_of_plan asked planned, writeFiles]
  cases (paths.write around.host.files around.host.base artifacts).outcome with
  | ok _ =>
      exact .inl ⟨rfl, rfl, rfl⟩
  | error failure =>
      exact .inr ⟨failure, rfl, rfl, rfl⟩

/-- How a run ends whose plan is written. -/
theorem run_of_write {files : FileTree}
    (asked : Arguments.parse arguments = .ok (.generate source outputDirectory? false))
    (planned : around.plan source outputDirectory? = .ok (paths, artifacts))
    (written : paths.write around.host.files around.host.base artifacts = ⟨files, .ok (), []⟩) :
    around.run arguments =
      { exitCode := 0
        standardOutput := paths.summary
        standardError := []
        warnings := around.commandWarnings source
        files } := by
  rw [run_real_of_plan asked planned]
  simp only [writeFiles, written, warned, List.append_nil]

/-- A run for files that exits with zero has written its plan. -/
theorem exists_plan_of_run
    (asked : Arguments.parse arguments = .ok (.generate source outputDirectory? false))
    (succeeded : (around.run arguments).exitCode = 0) :
    ∃ paths artifacts,
      around.plan source outputDirectory? = .ok (paths, artifacts) ∧
        paths.write around.host.files around.host.base artifacts =
          ⟨(around.run arguments).files, .ok (), []⟩ := by
  cases planned : around.plan source outputDirectory? with
  | error failure =>
      rw [run_of_plan_error asked planned] at succeeded
      cases succeeded
  | ok pair =>
      obtain ⟨paths, artifacts⟩ := pair
      refine ⟨paths, artifacts, rfl, ?_⟩
      rcases run_cases_of_plan asked planned with ⟨ended, -⟩ | ⟨failure, -, refused, -⟩
      · obtain ⟨_, _, files, -, -, -, whole⟩ := OutputPaths.exists_steps_of_write ended
        rw [run_of_write asked planned whole, whole]
      · rw [refused] at succeeded
        cases succeeded

/-- The surroundings of another run from the same start, in which other names are made up. -/
def renumbered (around : Surroundings) (number : Nat) : Surroundings where
  host := around.host
  platform := around.platform
  input := around.input
  freshNumber := number

theorem readCommand_renumbered
    (around : Surroundings) (source : Arguments.SourceOptions) (number : Nat) :
    (around.renumbered number).readCommand source = around.readCommand source := rfl

/-- A system without files and programs. -/
def bare (environment : Environment) : Surroundings where
  host :=
    { files := .empty
      base := .root
      environment
      accountHome := Path.ofText "/root".toList
      programs := [] }
  platform := .linux
  input := []
  freshNumber := 11

end RunManifest.Surroundings
