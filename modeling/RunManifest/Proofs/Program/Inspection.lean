import RunManifest.Proofs.Output.Containment
import RunManifest.Proofs.Program.OneName

/-!
# What an inspection settles

Whatever can be wrong with a command line is found when it is read.  If it can be shown, a run for
its files can only fail for the place to which they are to be written, and if it cannot be shown, a
run for its files fails in the same way.
-/

namespace RunManifest

open Outcomes

theorem ContainerCommand.isComponent_resolvedName
    {command : ContainerCommand} (checked : checkName command.name? = .ok ()) (number : Nat) :
    Name.isComponent (command.resolvedName (Name.numbered number)) = true := by
  rcases command.resolvedName_cases number with given | ⟨-, -, madeUp⟩
  · rw [given] at checked
    exact Name.check_eq_ok_iff.mp checked
  · exact Name.isComponent_of_isMadeUp madeUp

theorem OutputPaths.exists_render
    {root : Path} {name reference : Text} {paths : OutputPaths}
    (command : ContainerCommand) (schema : SchemaVersions)
    (placed : under root name = .ok paths) (spelt : paths.reference? = some reference) :
    ∃ artifacts, Artifacts.render command name reference schema = .ok artifacts := by
  have component : Name.isComponent name = true := (under_eq_ok_iff.mp placed).1
  have named : name ≠ [] := (Name.isComponent_iff.mp component).1
  have manifestPresent : reference ≠ [] := by
    rintro rfl
    have manifestEmpty : paths.manifest = [] := (Path.ofText_of_toText? spelt).symm
    have steps := (confined_of_under placed).manifest
    rw [manifestEmpty] at steps
    exact List.append_ne_nil_of_right_ne_nil _ (List.cons_ne_nil _ _) steps.symm
  exact Artifacts.exists_render command schema named manifestPresent

namespace Surroundings

/-- The failures that are about the place of the files for a command under a name: the root has no
absolute path, the path of the manifest is no text, or the files of a plan cannot be written. -/
inductive PlaceFailure
    (around : Surroundings) (source : Arguments.SourceOptions) (outputDirectory? : Option Text)
    (settings : Settings) (command : ContainerCommand) (name : Text) : Failure → Prop
  | noRoot {cause : SystemError}
      (unresolved :
        around.host.absolute
          (Settings.outputRoot around.host (outputDirectory?.map Path.ofText) settings) =
            .error cause) :
      PlaceFailure around source outputDirectory? settings command name
        (.outputRoot
          (Settings.outputRoot around.host (outputDirectory?.map Path.ofText) settings) cause)
  | noText {root : Path} {paths : OutputPaths}
      (rooted :
        around.host.absolute
          (Settings.outputRoot around.host (outputDirectory?.map Path.ofText) settings) =
            .ok root)
      (placed : OutputPaths.under root name = .ok paths)
      (unspelt : paths.reference? = none) :
      PlaceFailure around source outputDirectory? settings command name (.outputNotText paths)
  | notWritten {root : Path} {reference : Text} {paths : OutputPaths} {artifacts : Artifacts}
      {failure : WriteFailure}
      (plan :
        Plan around source outputDirectory? settings command name root reference paths artifacts)
      (failed :
        (paths.write around.host.files around.host.base artifacts).outcome = .error failure) :
      PlaceFailure around source outputDirectory? settings command name (.write failure)

end Surroundings

namespace Failure

/-- The first character of what is reported to have happened. -/
def reportedFirst? (report : Text) : Option Char :=
  (report.drop "Error: ".length).head?

theorem reportedFirst?_validation (error : ValidationError) :
    reportedFirst? (validation error).report ∈
      ['空', '環', 'ポ', '未', 'イ', 'コ'].map some := by
  obtain ⟨operation, fault⟩ := error
  cases fault with
  | emptyText parameter => exact List.mem_of_elem_eq_true rfl
  | assignmentWithoutMark input => exact List.mem_of_elem_eq_true rfl
  | assignmentWithoutKey input => exact List.mem_of_elem_eq_true rfl
  | invalidPort side value => exact List.mem_of_elem_eq_true rfl
  | unsupportedProtocol value => exact List.mem_of_elem_eq_true rfl
  | missingImage => exact List.mem_of_elem_eq_true rfl
  | invalidName value => exact List.mem_of_elem_eq_true rfl

end Failure

namespace Surroundings

variable {around : Surroundings} {source : Arguments.SourceOptions}
variable {outputDirectory? : Option Text} {isDryRun : Bool}
variable {inspectArguments arguments : List Text}
variable {settings : Settings} {command : ContainerCommand} {name : Text} {failure : Failure}

theorem PlaceFailure.reportedFirst?_mem
    (fails : PlaceFailure around source outputDirectory? settings command name failure) :
    Failure.reportedFirst? failure.report ∈ ['出', 'デ', '書'].map some := by
  cases fails with
  | noRoot unresolved => exact List.mem_of_elem_eq_true rfl
  | noText rooted placed unspelt => exact List.mem_of_elem_eq_true rfl
  | @notWritten root reference paths artifacts failure plan failed =>
      cases failure with
      | directory path cause => exact List.mem_of_elem_eq_true rfl
      | file path cause => exact List.mem_of_elem_eq_true rfl

/-- No report about the place of files is one about a command line. -/
theorem PlaceFailure.report_ne
    (fails : PlaceFailure around source outputDirectory? settings command name failure)
    (error : ValidationError) :
    failure.report ≠ (Failure.validation error).report := by
  intro same
  -- All reports begin alike; these two kinds differ in the first character behind that.
  have first := fails.reportedFirst?_mem
  rw [same] at first
  have disjoint : ∀ character ∈ ['出', 'デ', '書'].map some,
      character ∉ ['空', '環', 'ポ', '未', 'イ', 'コ'].map some := by
    decide
  exact disjoint _ first (Failure.reportedFirst?_validation error)

theorem checkName_of_readCommand (read : around.readCommand source = .ok (settings, command)) :
    ContainerCommand.checkName command.name? = .ok () := by
  obtain ⟨text, -, parsed⟩ := readCommand_eq_ok_iff.mp read
  obtain ⟨-, built⟩ := ContainerCommand.parse_eq_ok_iff.mp parsed
  obtain ⟨-, -, -, checked, -⟩ := ContainerCommand.build_eq_ok_iff.mp built
  exact checked

theorem outputPaths_of_unresolved {given? : Option Path} {cause : SystemError}
    (unresolved :
      around.host.absolute (Settings.outputRoot around.host given? settings) = .error cause) :
    around.outputPaths settings given? name =
      .error (.outputRoot (Settings.outputRoot around.host given? settings) cause) := by
  simp only [outputPaths, unresolved]
  rfl

/-- A plan for a command that can be read fails for the place of the files, or not at all. -/
theorem plan_cases (read : around.readCommand source = .ok (settings, command))
    (named : name = command.resolvedName (Name.numbered around.freshNumber)) :
    (∃ failure,
      PlaceFailure around source outputDirectory? settings command name failure ∧
      around.plan source outputDirectory? = .error failure) ∨
    ∃ root reference paths artifacts,
      Plan around source outputDirectory? settings command name root reference paths
        artifacts := by
  have accepted : Name.isComponent name = true := by
    rw [named]
    exact ContainerCommand.isComponent_resolvedName (checkName_of_readCommand read) _
  cases rooted : around.host.absolute
      (Settings.outputRoot around.host (outputDirectory?.map Path.ofText) settings) with
  | error cause =>
      refine .inl ⟨_, .noRoot rooted, ?_⟩
      rw [plan_of_read read, outputPaths_of_unresolved rooted]
      rfl
  | ok root =>
      obtain ⟨paths, placed⟩ := OutputPaths.exists_under root accepted
      cases spelt : paths.reference? with
      | none =>
          refine .inl ⟨_, .noText rooted placed spelt, ?_⟩
          rw [plan_of_read read, ← named, outputPaths_eq_ok_iff.mpr ⟨root, rooted, placed⟩]
          simp only [bind, Except.bind, artifacts, spelt, Except.map]
      | some reference =>
          obtain ⟨artifacts, rendered⟩ :=
            OutputPaths.exists_render command settings.schema placed spelt
          exact .inr
            ⟨root, reference, paths, artifacts, read, named, rooted, placed, spelt, rendered⟩

/-! ## Runs for a command that can be shown -/

/-- How a run for files ends if nothing is wrong with the command line. -/
inductive EndsAtPlace
    (around : Surroundings) (source : Arguments.SourceOptions) (outputDirectory? : Option Text)
    (settings : Settings) (command : ContainerCommand) (name : Text) (outcome : Outcome) : Prop
  | succeeds (met : outcome.exitCode = 0) (silent : outcome.standardError = [])
  | fails {failure : Failure}
      (left : PlaceFailure around source outputDirectory? settings command name failure)
      (refused : outcome.exitCode = 1) (told : outcome.standardError = failure.report)

theorem EndsAtPlace.standardError_ne {outcome : Outcome}
    (ends : EndsAtPlace around source outputDirectory? settings command name outcome)
    (error : ValidationError) :
    outcome.standardError ≠ (Failure.validation error).report := by
  cases ends with
  | succeeds met silent =>
      rw [silent]
      simp [Failure.report, Failure.chain]
  | fails left refused told =>
      rw [told]
      exact left.report_ne error

theorem endsAtPlace_of_run
    (asked : Arguments.parse arguments = .ok (.generate source outputDirectory? isDryRun))
    (read : around.readCommand source = .ok (settings, command))
    (named : name = command.resolvedName (Name.numbered around.freshNumber)) :
    EndsAtPlace around source outputDirectory? settings command name (around.run arguments) := by
  rcases plan_cases read named with
    ⟨failure, left, planned⟩ | ⟨root, reference, paths, artifacts, plan⟩
  · rw [run_of_plan_error asked planned]
    exact .fails left rfl rfl
  · have planned := plan_eq_ok_iff.mpr ⟨_, _, _, _, _, plan⟩
    cases isDryRun with
    | true =>
        rw [run_dry_of_plan asked planned]
        exact .succeeds rfl rfl
    | false =>
        rcases run_cases_of_plan asked planned with ⟨-, met, silent⟩ | ⟨failure, ended, refused, told⟩
        · exact .succeeds met silent
        · exact .fails (.notWritten plan ended) refused told

/-- If an inspection succeeds, the name is good for every root, the files can be rendered for every
manifest path, and a run for them can only fail for the place of the files.  If it fails, a run for
the files fails with the same report. -/
theorem generate_of_inspect
    (askedToInspect : Arguments.parse inspectArguments = .ok (.inspect source))
    (asked : Arguments.parse arguments = .ok (.generate source outputDirectory? isDryRun))
    (number : Nat) :
    ((around.run inspectArguments).exitCode = 0 →
      ∃ settings command name,
        around.readCommand source = .ok (settings, command) ∧
        (command.name? = some name ∨
          command.name? = none ∧ name = Name.numbered number ∧ Name.IsMadeUp name) ∧
        (∀ root, ∃ paths, OutputPaths.under root name = .ok paths ∧
          ∀ reference, paths.reference? = some reference →
            ∃ artifacts,
              Artifacts.render command name reference settings.schema = .ok artifacts) ∧
        EndsAtPlace (around.renumbered number) source outputDirectory? settings command name
          ((around.renumbered number).run arguments) ∧
        ∀ error, ((around.renumbered number).run arguments).standardError ≠
          (Failure.validation error).report) ∧
    ((around.run inspectArguments).exitCode ≠ 0 →
      ((around.renumbered number).run arguments).exitCode =
          (around.run inspectArguments).exitCode ∧
        ((around.renumbered number).run arguments).standardError =
          (around.run inspectArguments).standardError) := by
  rw [run_eq_answer askedToInspect, answer, inspect]
  -- Both runs read the command line in the same way, whatever name is made up afterwards.
  cases read : around.readCommand source with
  | error failure =>
      have readLater := (readCommand_renumbered around source number).trans read
      rw [run_of_plan_error asked (plan_of_read_error readLater)]
      constructor
      · intro succeeded
        cases succeeded
      · intro _
        exact ⟨rfl, rfl⟩
  | ok pair =>
      obtain ⟨settings, command⟩ := pair
      have readLater := (readCommand_renumbered around source number).trans read
      have checked := checkName_of_readCommand read
      have accepted := ContainerCommand.isComponent_resolvedName checked number
      have ends := endsAtPlace_of_run asked readLater rfl
      constructor
      · intro _
        refine ⟨settings, command, _, rfl, ?_, ?_, ends, ends.standardError_ne⟩
        · exact command.resolvedName_cases number
        · intro root
          obtain ⟨paths, placed⟩ := OutputPaths.exists_under root accepted
          refine ⟨paths, placed, ?_⟩
          intro reference spelt
          exact OutputPaths.exists_render command settings.schema placed spelt
      · intro failed
        exact absurd rfl failed

def imageless : Text := "docker run --name db -d".toList

theorem generate_of_inspect_bare :
    (((bare {}).run ["inspect".toList, "-c".toList, nameless]).exitCode = 0 ∧
      ∃ command, command.name? = none ∧
        EndsAtPlace ((bare {}).renumbered 12) ⟨some nameless, false⟩ (some "/envs".toList) {}
          command (Name.numbered 12) (((bare {}).renumbered 12).run namelessArguments)) ∧
    (((bare {}).run ["inspect".toList, "-c".toList, imageless]).exitCode ≠ 0 ∧
      (((bare {}).renumbered 12).run
          ["generate".toList, "-c".toList, imageless, "--dry-run".toList]).standardError =
        ((bare {}).run ["inspect".toList, "-c".toList, imageless]).standardError) := by
  have askedToInspect : Arguments.parse ["inspect".toList, "-c".toList, nameless] =
      .ok (.inspect ⟨some nameless, false⟩) :=
    eq_ok_of_toOption (by decide +kernel)
  have asked : Arguments.parse namelessArguments =
      .ok (.generate ⟨some nameless, false⟩ (some "/envs".toList) false) :=
    eq_ok_of_toOption (by decide +kernel)
  have askedToInspectImageless :
      Arguments.parse ["inspect".toList, "-c".toList, imageless] =
        .ok (.inspect ⟨some imageless, false⟩) :=
    eq_ok_of_toOption (by decide +kernel)
  have askedImageless :
      Arguments.parse ["generate".toList, "-c".toList, imageless, "--dry-run".toList] =
        .ok (.generate ⟨some imageless, false⟩ none true) :=
    eq_ok_of_toOption (by decide +kernel)
  have succeeded : ((bare {}).run ["inspect".toList, "-c".toList, nameless]).exitCode = 0 := by
    decide +kernel
  have failed : ((bare {}).run ["inspect".toList, "-c".toList, imageless]).exitCode ≠ 0 := by
    decide +kernel
  have alike := (generate_of_inspect askedToInspectImageless askedImageless 12).2 failed
  refine ⟨⟨succeeded, ?_⟩, failed, alike.2⟩
  obtain ⟨settings, command, name, read, named, -, ends, -⟩ :=
    (generate_of_inspect askedToInspect asked 12).1 succeeded
  have readEq : ((bare {}).readCommand ⟨some nameless, false⟩).toOption.map
      (fun pair => (pair.1, pair.2.name?)) = some ({}, none) := rfl
  rw [read] at readEq
  obtain ⟨rfl, unnamed⟩ : settings = {} ∧ command.name? = none :=
    Prod.mk.inj (Option.some.inj readEq)
  rcases named with given | ⟨-, rfl, -⟩
  · rw [unnamed] at given
    cases given
  · exact ⟨command, unnamed, ends⟩

end Surroundings

end RunManifest
