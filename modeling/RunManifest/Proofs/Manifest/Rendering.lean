import Mathlib.Data.List.Basic
import RunManifest.Proofs.Manifest.Shapes
import RunManifest.Proofs.Text
import RunManifest.Proofs.Yaml.Layout

/-!
# Rendering

The files for a command can be written as soon as it has a name and they a place, and they say what
they were made from: commands with different images, ports or variables, other names, places or
schemas have other files.
-/

namespace RunManifest

open Yaml

theorem Pipeline.ofManifest_eq_ok_iff
    {name manifestPath : Text} {schema : SchemaVersions} {pipeline : Pipeline} :
    Pipeline.ofManifest name manifestPath schema = .ok pipeline ↔
      name ≠ [] ∧ manifestPath ≠ [] ∧
        pipeline = ⟨schema.pipeline, "Config".toList, name, [manifestPath]⟩ := by
  unfold Pipeline.ofManifest
  by_cases unnamed : name = []
  · simp [unnamed]
  · by_cases nowhere : manifestPath = []
    · simp [unnamed, nowhere]
    · simp [unnamed, nowhere, eq_comm]

theorem Artifacts.render_eq_ok_iff
    {command : ContainerCommand} {name manifestPath : Text} {schema : SchemaVersions}
    {artifacts : Artifacts} :
    Artifacts.render command name manifestPath schema = .ok artifacts ↔
      ∃ pipeline, Pipeline.ofManifest name manifestPath schema = .ok pipeline ∧
        artifacts =
          { name
            manifest := (Manifest.ofCommand command name schema).text
            pipeline := Yaml.documentText pipeline.toYaml } := by
  unfold Artifacts.render
  cases Pipeline.ofManifest name manifestPath schema with
  | error fault =>
      simp [Except.map]
  | ok pipeline =>
      simp [Except.map, eq_comm]

theorem Artifacts.exists_render
    (command : ContainerCommand) {name manifestPath : Text} (schema : SchemaVersions)
    (named : name ≠ []) (placed : manifestPath ≠ []) :
    ∃ artifacts, render command name manifestPath schema = .ok artifacts := by
  have made : Pipeline.ofManifest name manifestPath schema =
      .ok ⟨schema.pipeline, "Config".toList, name, [manifestPath]⟩ :=
    Pipeline.ofManifest_eq_ok_iff.mpr ⟨named, placed, rfl⟩
  exact ⟨_, Artifacts.render_eq_ok_iff.mpr ⟨_, made, rfl⟩⟩

theorem Labels.toYaml_injective : Function.Injective Labels.toYaml := by
  intro first second same
  have entry : Function.Injective fun label : Text × Text => (label.1, Value.text label.2) := by
    rintro ⟨key, label⟩ ⟨otherKey, otherLabel⟩ sameEntry
    simpa using sameEntry
  exact List.map_injective_iff.mpr entry (Value.mapping.inj same)

theorem ObjectMeta.toYaml_injective : Function.Injective ObjectMeta.toYaml := by
  rintro ⟨name, labels⟩ ⟨otherName, otherLabels⟩ same
  simp only [toYaml, Value.mapping.injEq, List.cons.injEq, Prod.mk.injEq, Value.text.injEq,
    true_and] at same
  obtain ⟨rfl, sameLabels⟩ := same
  by_cases bare : labels = []
  · by_cases otherBare : otherLabels = []
    · rw [bare, otherBare]
    · simp [bare, otherBare] at sameLabels
  · by_cases otherBare : otherLabels = []
    · simp [bare, otherBare] at sameLabels
    · simp only [if_neg bare, if_neg otherBare, List.cons.injEq, Prod.mk.injEq, true_and,
        and_true] at sameLabels
      rw [Labels.toYaml_injective sameLabels]

theorem Protocol.name_injective : Function.Injective Protocol.name := by
  intro first second same
  cases first <;> cases second <;> first | rfl | exact absurd same (by decide)

theorem ServicePort.toYaml_injective : Function.Injective ServicePort.toYaml := by
  rintro ⟨name, port, protocol, target⟩ ⟨otherName, otherPort, otherProtocol, otherTarget⟩ same
  simp only [toYaml, Value.mapping.injEq, List.cons.injEq, Prod.mk.injEq, Value.text.injEq,
    Value.number.injEq, true_and, and_true] at same
  obtain ⟨rfl, samePort, sameProtocol, rfl⟩ := same
  rw [UInt16.toNat_inj.mp samePort, Protocol.name_injective sameProtocol]

theorem Service.toYaml_injective : Function.Injective Service.toYaml := by
  rintro ⟨version, kind, metadata, ⟨address, selector, ports⟩⟩
    ⟨otherVersion, otherKind, otherMetadata, ⟨otherAddress, otherSelector, otherPorts⟩⟩ same
  simp only [toYaml, Value.mapping.injEq, List.cons.injEq, Prod.mk.injEq, Value.text.injEq,
    Value.list.injEq, true_and, and_true] at same
  obtain ⟨rfl, rfl, sameMetadata, rfl, sameSelector, samePorts⟩ := same
  rw [ObjectMeta.toYaml_injective sameMetadata, Labels.toYaml_injective sameSelector,
    List.map_injective_iff.mpr ServicePort.toYaml_injective samePorts]

theorem ContainerPort.toYaml_injective : Function.Injective ContainerPort.toYaml := by
  rintro ⟨name, port⟩ ⟨otherName, otherPort⟩ same
  simp only [toYaml, Value.mapping.injEq, List.cons.injEq, Prod.mk.injEq, Value.text.injEq,
    Value.number.injEq, true_and, and_true] at same
  obtain ⟨rfl, samePort⟩ := same
  rw [UInt16.toNat_inj.mp samePort]

theorem EnvEntry.toYaml_injective : Function.Injective EnvEntry.toYaml := by
  rintro ⟨name, value⟩ ⟨otherName, otherValue⟩ same
  simpa only [toYaml, Value.mapping.injEq, List.cons.injEq, Prod.mk.injEq, Value.text.injEq,
    true_and, and_true, EnvEntry.mk.injEq] using same

theorem EnvEntry.ofEnvVar_injective : Function.Injective EnvEntry.ofEnvVar := by
  rintro ⟨key, value⟩ ⟨otherKey, otherValue⟩ same
  simpa only [ofEnvVar, EnvEntry.mk.injEq, EnvVar.mk.injEq] using same

theorem Container.toYaml_injective : Function.Injective Container.toYaml := by
  rintro ⟨name, image, ports, env⟩ ⟨otherName, otherImage, otherPorts, otherEnv⟩ same
  simp only [toYaml, Value.mapping.injEq, List.cons.injEq, Prod.mk.injEq, Value.text.injEq,
    Value.list.injEq, true_and, and_true] at same
  obtain ⟨rfl, rfl, samePorts, sameEnv⟩ := same
  rw [List.map_injective_iff.mpr ContainerPort.toYaml_injective samePorts,
    List.map_injective_iff.mpr EnvEntry.toYaml_injective sameEnv]

theorem Deployment.toYaml_injective : Function.Injective Deployment.toYaml := by
  rintro ⟨version, kind, metadata, ⟨replicas, selector, ⟨labels, containers⟩⟩⟩
    ⟨otherVersion, otherKind, otherMetadata,
      ⟨otherReplicas, otherSelector, ⟨otherLabels, otherContainers⟩⟩⟩ same
  simp only [toYaml, Value.mapping.injEq, List.cons.injEq, Prod.mk.injEq, Value.text.injEq,
    Value.number.injEq, Value.list.injEq, true_and, and_true] at same
  obtain ⟨rfl, rfl, sameMetadata, rfl, sameSelector, sameLabels, sameContainers⟩ := same
  rw [ObjectMeta.toYaml_injective sameMetadata, Labels.toYaml_injective sameSelector,
    Labels.toYaml_injective sameLabels,
    List.map_injective_iff.mpr Container.toYaml_injective sameContainers]

theorem Pipeline.toYaml_injective : Function.Injective Pipeline.toYaml := by
  rintro ⟨version, kind, name, manifests⟩ ⟨otherVersion, otherKind, otherName, otherManifests⟩ same
  have text : Function.Injective Value.text := fun _ _ => Value.text.inj
  simp only [toYaml, Value.mapping.injEq, List.cons.injEq, Prod.mk.injEq, Value.text.injEq,
    Value.list.injEq, true_and, and_true] at same
  obtain ⟨rfl, rfl, rfl, sameManifests⟩ := same
  rw [List.map_injective_iff.mpr text sameManifests]

/-! ## What a manifest is made from -/

namespace Manifest

variable {command other : ContainerCommand} {name otherName : Text}
variable {schema otherSchema : SchemaVersions}

/-- The mark between the documents is no line of the service. -/
theorem endsItems_separator (behind : Text) : EndsItems 0 (separator ++ behind) where
  block := by
    change EndsBlock 1 (pad 0 ++ '-' :: ("--\n".toList ++ behind))
    exact .line Nat.one_pos (by decide) (by decide)
  noItem := by
    intro behind same
    exact absurd (List.cons.inj (List.cons.inj same).2).1 (by decide)

/-- The two documents of a manifest are told from its text. -/
theorem ofCommand_eq_of_text_eq
    (same : (ofCommand command name schema).text = (ofCommand other otherName otherSchema).text) :
    ofCommand command name schema = ofCommand other otherName otherSchema := by
  rw [text, text, List.append_assoc, List.append_assoc] at same
  obtain ⟨sameService, sameBehind⟩ :=
    delimits_documentText Service.shapes (Service.fieldsFit_ofCommand command name schema)
      (Service.fieldsFit_ofCommand other otherName otherSchema)
      (endsItems_separator _) (endsItems_separator _) same
  have sameDeployment :=
    documentText_inj (Deployment.fieldsFit_ofCommand command name schema)
      (Deployment.fieldsFit_ofCommand other otherName otherSchema)
      (List.append_cancel_left sameBehind)
  rw [Manifest.mk.injEq]
  exact ⟨Service.toYaml_injective sameService, Deployment.toYaml_injective sameDeployment⟩

/-- Ports are written twice, with the port of the host and its protocol in the service and with the
port of the container in the deployment. -/
theorem ports_eq {mappings others : List PortMapping}
    (sameService : mappings.mapIdx ServicePort.ofMapping = others.mapIdx ServicePort.ofMapping)
    (sameContainer :
      mappings.mapIdx ContainerPort.ofMapping = others.mapIdx ContainerPort.ofMapping) :
    mappings = others := by
  apply List.ext_getElem?
  intro index
  -- Both lists of ports have one at every position of a mapping and at no other.
  have servicePort := congrArg (·[index]?) sameService
  have containerPort := congrArg (·[index]?) sameContainer
  simp only [List.getElem?_mapIdx] at servicePort containerPort
  cases found : mappings[index]? with
  | none =>
      rw [found, Option.map_none, eq_comm, Option.map_eq_none_iff] at servicePort
      exact servicePort.symm
  | some mapping =>
      rw [found, Option.map_some, eq_comm, Option.map_eq_some_iff] at servicePort containerPort
      obtain ⟨⟨otherContainer, otherHost, otherProtocol⟩, otherFound, sameParts⟩ := servicePort
      obtain ⟨_, otherFoundToo, sameNumber⟩ := containerPort
      rw [otherFound, Option.some.injEq] at otherFoundToo
      subst otherFoundToo
      obtain ⟨-, rfl, rfl, -⟩ := ServicePort.mk.inj sameParts
      obtain ⟨-, rfl⟩ := ContainerPort.mk.inj sameNumber
      exact otherFound.symm

/-- Do two commands and schemas agree in all that a manifest is made from? -/
structure Agree (command other : ContainerCommand) (schema otherSchema : SchemaVersions) : Prop where
  service : schema.service = otherSchema.service
  deployment : schema.deployment = otherSchema.deployment
  image : command.image = other.image
  ports : command.ports = other.ports
  envVars : command.envVars = other.envVars

theorem ofCommand_eq_iff :
    ofCommand command name schema = ofCommand other otherName otherSchema ↔
      name = otherName ∧ Agree command other schema otherSchema := by
  constructor
  · intro same
    have sameContainer : Container.ofCommand command name = .ofCommand other otherName :=
      Option.some.inj (congrArg (fun manifest => manifest.deployment.container?) same)
    refine ⟨congrArg Container.name sameContainer, ?_⟩
    exact
      { service := congrArg (fun manifest => manifest.service.apiVersion) same
        deployment := congrArg (fun manifest => manifest.deployment.apiVersion) same
        image := congrArg Container.image sameContainer
        ports := ports_eq (congrArg (fun manifest => manifest.service.spec.ports) same)
          (congrArg Container.ports sameContainer)
        envVars := List.map_injective_iff.mpr EnvEntry.ofEnvVar_injective
          (congrArg Container.env sameContainer) }
  · rintro ⟨rfl, agree⟩
    simp only [ofCommand, Service.ofCommand, Deployment.ofCommand, Container.ofCommand,
      agree.service, agree.deployment, agree.image, agree.ports, agree.envVars]

theorem text_eq_iff :
    (ofCommand command name schema).text = (ofCommand other otherName otherSchema).text ↔
      name = otherName ∧ Agree command other schema otherSchema := by
  rw [← ofCommand_eq_iff]
  exact ⟨ofCommand_eq_of_text_eq, congrArg text⟩

end Manifest

namespace Artifacts

/-- The texts for two commands are the same exactly if everything is the same that can matter to a
cluster.  Whether a command runs on its own, and the name that it gives itself, do not. -/
theorem texts_eq_iff
    (command other : ContainerCommand) (schema otherSchema : SchemaVersions)
    {name otherName manifestPath otherPath : Text}
    (named : name ≠ []) (otherNamed : otherName ≠ [])
    (placed : manifestPath ≠ []) (otherPlaced : otherPath ≠ []) :
    ∃ files otherFiles,
      render command name manifestPath schema = .ok files ∧
      render other otherName otherPath otherSchema = .ok otherFiles ∧
      ((files.manifest = otherFiles.manifest ∧ files.pipeline = otherFiles.pipeline) ↔
        name = otherName ∧ manifestPath = otherPath ∧ schema = otherSchema ∧
          command.image = other.image ∧ command.ports = other.ports ∧
          command.envVars = other.envVars) := by
  obtain ⟨files, rendered⟩ := exists_render command schema named placed
  obtain ⟨otherFiles, otherRendered⟩ := exists_render other otherSchema otherNamed otherPlaced
  refine ⟨files, otherFiles, rendered, otherRendered, ?_⟩
  obtain ⟨pipeline, made, rfl⟩ := render_eq_ok_iff.mp rendered
  obtain ⟨otherPipeline, otherMade, rfl⟩ := render_eq_ok_iff.mp otherRendered
  obtain ⟨-, -, rfl⟩ := Pipeline.ofManifest_eq_ok_iff.mp made
  obtain ⟨-, -, rfl⟩ := Pipeline.ofManifest_eq_ok_iff.mp otherMade
  rw [Manifest.text_eq_iff]
  constructor
  · rintro ⟨⟨rfl, agree⟩, samePipeline⟩
    have sameObject :=
      documentText_inj (Pipeline.fieldsFit_toYaml _) (Pipeline.fieldsFit_toYaml _) samePipeline
    obtain ⟨sameSchema, -, -, samePaths⟩ :=
      Pipeline.mk.inj (Pipeline.toYaml_injective sameObject)
    have sameVersions : schema = otherSchema := by
      rw [SchemaVersions.mk.injEq]
      exact ⟨agree.service, agree.deployment, sameSchema⟩
    exact ⟨rfl, List.singleton_inj.mp samePaths, sameVersions, agree.image, agree.ports,
      agree.envVars⟩
  · rintro ⟨rfl, rfl, rfl, sameImage, samePorts, sameEnvVars⟩
    exact ⟨⟨rfl, rfl, rfl, sameImage, samePorts, sameEnvVars⟩, rfl⟩

/-- A command that sets a variable. -/
def setting (value : Text) : ContainerCommand where
  name? := none
  daemon := false
  ports := [⟨53, 5353, .udp⟩]
  envVars := [⟨"NOTE".toList, value⟩]
  image := "dns:1".toList

theorem texts_ne_setting :
    ∃ files otherFiles,
      render (setting "- a: 1\u2028  b".toList) "dns".toList "dns/service.yml".toList {} =
        .ok files ∧
      render (setting "- a: 1\n  b".toList) "dns".toList "dns/service.yml".toList {} =
        .ok otherFiles ∧
      ¬ (files.manifest = otherFiles.manifest ∧ files.pipeline = otherFiles.pipeline) := by
  have named : "dns".toList ≠ [] := by
    decide
  have placed : "dns/service.yml".toList ≠ [] := by
    decide
  obtain ⟨files, otherFiles, rendered, otherRendered, same⟩ :=
    texts_eq_iff (setting "- a: 1\u2028  b".toList) (setting "- a: 1\n  b".toList) {} {} named named
      placed placed
  refine ⟨files, otherFiles, rendered, otherRendered, ?_⟩
  intro both
  obtain ⟨-, -, -, -, -, sameEnvVars⟩ := same.mp both
  exact absurd sameEnvVars (by decide)

end Artifacts

end RunManifest
