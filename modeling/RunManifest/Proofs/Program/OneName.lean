import RunManifest.Proofs.Command.Building
import RunManifest.Proofs.Manifest.Rendering
import RunManifest.Proofs.Name
import RunManifest.Proofs.Program.Generating

/-!
# One name and one path

All that a run writes for a command bears the same name, which is also that of the directory, and
the pipeline refers to the manifest by the path at which it stands.
-/

namespace RunManifest

open Outcomes

namespace Manifest

/-- The labels that the objects of a manifest carry, and those by which they find each other. -/
def labelSets (manifest : Manifest) : List Labels :=
  [ manifest.service.metadata.labels,
    manifest.service.spec.selector,
    manifest.deployment.metadata.labels,
    manifest.deployment.spec.matchLabels,
    manifest.deployment.spec.template.labels ]

/-- Both objects, the only container and every label have the same name. -/
structure BearsName (manifest : Manifest) (name : Text) : Prop where
  service : manifest.service.metadata.name = name
  deployment : manifest.deployment.metadata.name = name
  containers : manifest.deployment.spec.template.containers.map Container.name = [name]
  labels : ∀ labels ∈ manifest.labelSets, labels = appLabels name

theorem bearsName_ofCommand
    (command : ContainerCommand) (name : Text) (schema : SchemaVersions) :
    (ofCommand command name schema).BearsName name where
  service := rfl
  deployment := rfl
  containers := rfl
  labels := by
    intro labels member
    simpa [labelSets, ofCommand, Service.ofCommand, Deployment.ofCommand, ObjectMeta.labelled]
      using member

end Manifest

theorem Path.getLast?_components
    {path : Path} {before : List Bytes} {name : Bytes} (ends : path.EndsWithName before name) :
    path.components.getLast? = some (.normal name) := by
  have step : component? name = some (.normal name) := by
    rw [component?, if_neg ends.notDot, if_neg ends.notDotDot]
  rw [components, ends.names_eq, List.filterMap_append, ← List.append_assoc,
    List.filterMap_cons_some step, List.filterMap_nil, List.getLast?_concat]

theorem Path.ofText_of_toText?
    {path : Path} {text : Text} (spelt : path.toText? = some text) :
    Path.ofText text = path := by
  unfold toText? at spelt
  cases read : Utf8.decode path with
  | error fault =>
      rw [read] at spelt
      cases spelt
  | ok found =>
      rw [read] at spelt
      cases spelt
      exact Utf8.encode_of_decode read

theorem Host.isAbsolute_of_absolute
    {host : Host} {path root : Path} (rooted : host.absolute path = .ok root) :
    Path.isAbsolute root = true := by
  unfold absolute at rooted
  split at rooted
  · cases rooted
  · split at rooted
    · rename_i absolutePath
      cases rooted
      exact Path.isAbsolute_absoluteFrom (.inl absolutePath)
    · unfold currentDirectory at rooted
      split at rooted
      · cases rooted
      · cases rooted
        exact Path.isAbsolute_absoluteFrom (.inr rfl)

/-- The name of a command is its own one or one that is made up. -/
theorem ContainerCommand.resolvedName_cases (command : ContainerCommand) (number : Nat) :
    command.name? = some (command.resolvedName (Name.numbered number)) ∨
      command.name? = none ∧ command.resolvedName (Name.numbered number) = Name.numbered number ∧
        Name.IsMadeUp (command.resolvedName (Name.numbered number)) := by
  unfold resolvedName
  cases command.name? with
  | none =>
      exact .inr ⟨rfl, rfl, Name.isMadeUp_numbered number⟩
  | some name =>
      exact .inl rfl

/-! ## What a run leaves -/

namespace Surroundings

open CommandLine

/-- What stands in a tree for a command under a name. Both files can be read from everywhere. -/
structure Deposit
    (files : FileTree) (command : ContainerCommand) (schema : SchemaVersions)
    (root : Path) (name reference : Text) (pipeline : Pipeline) : Prop where
  referenceSpells :
    Path.ofText reference =
      Path.join (Path.join root (Path.ofText name)) (Path.ofText "service.yml".toList)
  manifestStands : ∀ base,
    files.readFile base (Path.ofText reference) =
      .ok (Utf8.encode (Manifest.ofCommand command name schema).text)
  pipelineStands : ∀ base,
    files.readFile base
        (Path.join (Path.join root (Path.ofText name)) (Path.ofText "skaffold.yml".toList)) =
      .ok (Utf8.encode (Yaml.documentText pipeline.toYaml))
  ofManifest : Pipeline.ofManifest name reference schema = .ok pipeline
  manifestName : (Manifest.ofCommand command name schema).BearsName name
  pipelineName : pipeline.name = name
  manifests : pipeline.manifests = [reference]
  directoryName :
    (Path.components (Path.join root (Path.ofText name))).getLast? =
      some (.normal (Path.ofText name))

variable {around : Surroundings} {source : Arguments.SourceOptions}
variable {outputDirectory? : Option Text} {arguments : List Text}
variable {settings : Settings} {name reference : Text} {command : ContainerCommand}
variable {root : Path} {paths : OutputPaths} {artifacts : Artifacts}

theorem deposit_of_plan {files : FileTree}
    (parts : Plan around source outputDirectory? settings command name root reference paths
      artifacts)
    (holds : OutputPaths.Holds files around.host.base paths artifacts) :
    ∃ pipeline, Deposit files command settings.schema root name reference pipeline := by
  obtain ⟨-, directoryEq, manifestEq, pipelineEq⟩ := OutputPaths.under_eq_ok_iff.mp parts.placed
  have ends := OutputPaths.directoryEnds_of_under parts.placed
  have referenceEq : Path.ofText reference = paths.manifest :=
    Path.ofText_of_toText? parts.spelt
  have absoluteRoot := Host.isAbsolute_of_absolute parts.rooted
  have absoluteDirectory := Path.isAbsolute_join absoluteRoot (Path.ofText name)
  rw [directoryEq] at ends manifestEq pipelineEq
  have absoluteManifest : Path.isAbsolute paths.manifest = true := by
    rw [manifestEq]
    exact Path.isAbsolute_join absoluteDirectory _
  obtain ⟨pipeline, made, rfl⟩ := Artifacts.render_eq_ok_iff.mp parts.rendered
  obtain ⟨-, -, pipelineIs⟩ := Pipeline.ofManifest_eq_ok_iff.mp made
  refine ⟨pipeline, ?_⟩
  exact
    { referenceSpells := referenceEq.trans manifestEq
      manifestStands := by
        intro base
        rw [referenceEq]
        exact (FileTree.readFile_of_isAbsolute absoluteManifest base).trans holds.readManifest
      pipelineStands := by
        intro base
        have absolutePipeline := Path.isAbsolute_join absoluteDirectory
          (Path.ofText OutputPaths.pipelineFile)
        have stands := holds.readPipeline
        rw [pipelineEq] at stands
        exact (FileTree.readFile_of_isAbsolute absolutePipeline base).trans stands
      ofManifest := made
      manifestName := Manifest.bearsName_ofCommand command name settings.schema
      pipelineName := by rw [pipelineIs]
      manifests := by rw [pipelineIs]
      directoryName := Path.getLast?_components ends }

/-- A command is named by the last name in its flags, unless that is empty, or else by the name that
is made up for the run. -/
theorem resolvedName_cases {flags : Flags} {number : Nat}
    (given : ContainerCommand.givenName? flags = command.name?)
    (named : name = command.resolvedName (Name.numbered number)) :
    (flags.lastValue? ["name".toList] = some name ∧ name ≠ []) ∨
      ((∀ last, flags.lastValue? ["name".toList] = some last → last = []) ∧
        name = Name.numbered number ∧ Name.IsMadeUp name) := by
  have givenEq : ContainerCommand.givenName? flags =
      (flags.lastValue? ["name".toList]).filter fun last => last ≠ [] := rfl
  rw [givenEq] at given
  subst named
  rcases command.resolvedName_cases number with own | ⟨unnamed, nameEq, madeUp⟩
  · rw [own, Option.filter_eq_some_iff, decide_eq_true_eq] at given
    exact .inl given
  · rw [unnamed, Option.filter_eq_none_iff] at given
    refine .inr ⟨?_, nameEq, madeUp⟩
    intro last found
    simpa using given last found

/-- A run for files that exits with zero leaves both of them under one name: the last one that the
command line gives, unless that is empty, or else the one made up for this run. -/
theorem deposit_of_run
    (asked : Arguments.parse arguments = .ok (.generate source outputDirectory? false))
    (succeeded : (around.run arguments).exitCode = 0) :
    ∃ settings text command root name reference pipeline,
      around.readSource source = .ok (settings, text) ∧
      ContainerCommand.parse settings.defaultProtocol text = .ok command ∧
      around.host.absolute
        (Settings.outputRoot around.host (outputDirectory?.map Path.ofText) settings) =
          .ok root ∧
      (((Flags.ofCommandLine text).lastValue? ["name".toList] = some name ∧ name ≠ []) ∨
        ((∀ last, (Flags.ofCommandLine text).lastValue? ["name".toList] = some last →
            last = []) ∧
          name = Name.numbered around.freshNumber ∧ Name.IsMadeUp name)) ∧
      Deposit (around.run arguments).files command settings.schema root name reference
        pipeline := by
  obtain ⟨paths, artifacts, planned, written⟩ := exists_plan_of_run asked succeeded
  obtain ⟨settings, command, name, root, reference, parts⟩ := plan_eq_ok_iff.mp planned
  obtain ⟨text, read, parsed⟩ := readCommand_eq_ok_iff.mp parts.read
  obtain ⟨-, built⟩ := ContainerCommand.parse_eq_ok_iff.mp parsed
  obtain ⟨-, -, given, -⟩ := ContainerCommand.build_eq_ok_iff.mp built
  have holds := OutputPaths.holds_of_write parts.placed (by rw [written])
  rw [written] at holds
  obtain ⟨pipeline, deposit⟩ := deposit_of_plan parts holds
  exact ⟨settings, text, command, root, name, reference, pipeline, read, parsed, parts.rooted,
    resolvedName_cases given parts.named, deposit⟩

def nameless : Text := "docker run -p 8080:80 nginx".toList

def namelessArguments : List Text :=
  ["generate".toList, "-c".toList, nameless, "-o".toList, "/envs".toList]

theorem deposit_of_nameless :
    ((bare {}).run namelessArguments).exitCode = 0 ∧
      ∃ command reference pipeline,
        Deposit ((bare {}).run namelessArguments).files command {} (Path.ofText "/envs".toList)
          (Name.numbered 11) reference pipeline := by
  have asked : Arguments.parse namelessArguments =
      .ok (.generate ⟨some nameless, false⟩ (some "/envs".toList) false) :=
    eq_ok_of_toOption (by decide +kernel)
  have succeeded : ((bare {}).run namelessArguments).exitCode = 0 := by
    decide +kernel
  obtain ⟨settings, text, command, root, name, reference, pipeline, read, -, rooted, named,
    deposit⟩ := deposit_of_run asked succeeded
  have readEq : (bare {}).readSource ⟨some nameless, false⟩ = .ok ({}, nameless) := rfl
  rw [readEq] at read
  cases read
  have rootedEq : (bare {}).host.absolute (Settings.outputRoot (bare {}).host
      ((some "/envs".toList).map Path.ofText) {}) = .ok (Path.ofText "/envs".toList) := rfl
  rw [rootedEq] at rooted
  cases rooted
  have noName : (Flags.ofCommandLine nameless).lastValue? ["name".toList] = none := by
    decide +kernel
  rcases named with ⟨given, -⟩ | ⟨-, rfl, -⟩
  · rw [noName] at given
    cases given
  · exact ⟨succeeded, command, reference, pipeline, deposit⟩

end Surroundings

end RunManifest
