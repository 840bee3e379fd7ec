import RunManifest.Command
import RunManifest.Yaml.Writer

/-!
Manifests, and the pair of files written for a command: its manifest, which holds a service and a
deployment, and the pipeline that brings the manifest to a cluster.

Everything that belongs to one container carries the same single label, by which a service finds
the pods of its deployment.
-/

namespace RunManifest

/-- The `apiVersion` of each document. -/
structure SchemaVersions where
  service : Text := "v1".toList
  deployment : Text := "apps/v1".toList
  pipeline : Text := "skaffold/v2beta29".toList
deriving DecidableEq, Repr

abbrev Labels := List (Text × Text)

def appLabels (name : Text) : Labels :=
  [("app".toList, name)]

def Labels.toYaml (labels : Labels) : Yaml.Value :=
  .mapping (labels.map fun label => (label.1, .text label.2))

def portName (index : Nat) : Text :=
  "p-".toList ++ Text.decimal index

/-- The name and the labels of an object. -/
structure ObjectMeta where
  name : Text
  labels : Labels
deriving DecidableEq, Repr

namespace ObjectMeta

def labelled (name : Text) : ObjectMeta where
  name := name
  labels := appLabels name

/-- Metadata as a node of a document. Without labels only the name is written. -/
def toYaml (metadata : ObjectMeta) : Yaml.Value :=
  .mapping <|
    ("name".toList, .text metadata.name) ::
      if metadata.labels = [] then [] else [("labels".toList, metadata.labels.toYaml)]

end ObjectMeta

/-- A port of a service and the name of the container port that it leads to. -/
structure ServicePort where
  name : Text
  port : UInt16
  protocol : Protocol
  targetPort : Text
deriving DecidableEq, Repr

/-- What a service selects and which ports it has. -/
structure ServiceSpec where
  clusterIP : Text
  selector : Labels
  ports : List ServicePort
deriving DecidableEq, Repr

/-- A service. -/
structure Service where
  apiVersion : Text
  kind : Text
  metadata : ObjectMeta
  spec : ServiceSpec
deriving DecidableEq, Repr

def ServicePort.ofMapping (index : Nat) (mapping : PortMapping) : ServicePort where
  name := portName index
  port := mapping.hostPort
  protocol := mapping.protocol
  targetPort := portName index

def ServicePort.toYaml (port : ServicePort) : Yaml.Value :=
  .mapping
    [ ("name".toList, .text port.name),
      ("port".toList, .number port.port.toNat),
      ("protocol".toList, .text port.protocol.name),
      ("targetPort".toList, .text port.targetPort) ]

namespace Service

/-- The service for a command. It has no address of its own, so that names lead to the pods. -/
def ofCommand (command : ContainerCommand) (name : Text) (schema : SchemaVersions) : Service where
  apiVersion := schema.service
  kind := "Service".toList
  metadata := .labelled name
  spec :=
    { clusterIP := "None".toList
      selector := appLabels name
      ports := command.ports.mapIdx ServicePort.ofMapping }

def toYaml (service : Service) : List (Text × Yaml.Value) :=
  [ ("apiVersion".toList, .text service.apiVersion),
    ("kind".toList, .text service.kind),
    ("metadata".toList, service.metadata.toYaml),
    ("spec".toList, .mapping
      [ ("clusterIP".toList, .text service.spec.clusterIP),
        ("selector".toList, service.spec.selector.toYaml),
        ("ports".toList, .list (service.spec.ports.map ServicePort.toYaml)) ]) ]

end Service

/-- A port on which a container listens. -/
structure ContainerPort where
  name : Text
  containerPort : UInt16
deriving DecidableEq, Repr

/-- A variable of the environment of a container. -/
structure EnvEntry where
  name : Text
  value : Text
deriving DecidableEq, Repr

/-- A container of a pod. -/
structure Container where
  name : Text
  image : Text
  ports : List ContainerPort
  env : List EnvEntry
deriving DecidableEq, Repr

/-- The pods that a deployment starts. -/
structure PodTemplate where
  labels : Labels
  containers : List Container
deriving DecidableEq, Repr

/-- How many pods a deployment starts, which pods are its own, and what they hold. -/
structure DeploymentSpec where
  replicas : Nat
  matchLabels : Labels
  template : PodTemplate
deriving DecidableEq, Repr

/-- A deployment. -/
structure Deployment where
  apiVersion : Text
  kind : Text
  metadata : ObjectMeta
  spec : DeploymentSpec
deriving DecidableEq, Repr

def ContainerPort.ofMapping (index : Nat) (mapping : PortMapping) : ContainerPort where
  name := portName index
  containerPort := mapping.containerPort

def ContainerPort.toYaml (port : ContainerPort) : Yaml.Value :=
  .mapping
    [ ("name".toList, .text port.name),
      ("containerPort".toList, .number port.containerPort.toNat) ]

def EnvEntry.ofEnvVar (envVar : EnvVar) : EnvEntry where
  name := envVar.key
  value := envVar.value

def EnvEntry.toYaml (entry : EnvEntry) : Yaml.Value :=
  .mapping
    [ ("name".toList, .text entry.name),
      ("value".toList, .text entry.value) ]

namespace Container

def ofCommand (command : ContainerCommand) (name : Text) : Container where
  name := name
  image := command.image
  ports := command.ports.mapIdx ContainerPort.ofMapping
  env := command.envVars.map EnvEntry.ofEnvVar

def toYaml (container : Container) : Yaml.Value :=
  .mapping
    [ ("name".toList, .text container.name),
      ("image".toList, .text container.image),
      ("ports".toList, .list (container.ports.map ContainerPort.toYaml)),
      ("env".toList, .list (container.env.map EnvEntry.toYaml)) ]

end Container

namespace Deployment

/-- The deployment for a command: one pod with one container. -/
def ofCommand (command : ContainerCommand) (name : Text) (schema : SchemaVersions) :
    Deployment where
  apiVersion := schema.deployment
  kind := "Deployment".toList
  metadata := .labelled name
  spec :=
    { replicas := 1
      matchLabels := appLabels name
      template :=
        { labels := appLabels name
          containers := [.ofCommand command name] } }

/-- The first container of the pods, if there is one. -/
def container? (deployment : Deployment) : Option Container :=
  deployment.spec.template.containers.head?

def toYaml (deployment : Deployment) : List (Text × Yaml.Value) :=
  let template := deployment.spec.template
  [ ("apiVersion".toList, .text deployment.apiVersion),
    ("kind".toList, .text deployment.kind),
    ("metadata".toList, deployment.metadata.toYaml),
    ("spec".toList, .mapping
      [ ("replicas".toList, .number deployment.spec.replicas),
        ("selector".toList, .mapping
          [("matchLabels".toList, deployment.spec.matchLabels.toYaml)]),
        ("template".toList, .mapping
          [ ("metadata".toList, .mapping [("labels".toList, template.labels.toYaml)]),
            ("spec".toList, .mapping
              [("containers".toList, .list (template.containers.map Container.toYaml))]) ]) ]) ]

end Deployment

/-- A pipeline that hands manifest files to the cluster. -/
structure Pipeline where
  apiVersion : Text
  kind : Text
  name : Text
  manifests : List Text
deriving DecidableEq, Repr

namespace Pipeline

def operation : Text := "build_skaffold_config".toList

/-- The pipeline for one manifest file. Its name and the path of the file must not be empty. -/
def ofManifest (name manifestPath : Text) (schema : SchemaVersions) :
    Except ValidationError Pipeline :=
  if name = [] then
    .error ⟨operation, .emptyText "name".toList⟩
  else if manifestPath = [] then
    .error ⟨operation, .emptyText "manifestPath".toList⟩
  else
    .ok
      { apiVersion := schema.pipeline
        kind := "Config".toList
        name
        manifests := [manifestPath] }

def toYaml (pipeline : Pipeline) : List (Text × Yaml.Value) :=
  [ ("apiVersion".toList, .text pipeline.apiVersion),
    ("kind".toList, .text pipeline.kind),
    ("metadata".toList, .mapping [("name".toList, .text pipeline.name)]),
    ("deploy".toList, .mapping
      [("kubectl".toList, .mapping
        [("manifests".toList, .list (pipeline.manifests.map .text))])]) ]

end Pipeline

/-- The objects that run a command in a cluster. -/
structure Manifest where
  service : Service
  deployment : Deployment
deriving DecidableEq, Repr

namespace Manifest

def ofCommand (command : ContainerCommand) (name : Text) (schema : SchemaVersions) :
    Manifest where
  service := .ofCommand command name schema
  deployment := .ofCommand command name schema

def separator : Text := "---\n".toList

/-- The text of a manifest: two documents. -/
def text (manifest : Manifest) : Text :=
  Yaml.documentText manifest.service.toYaml ++ separator ++
    Yaml.documentText manifest.deployment.toYaml

end Manifest

/-- The texts of the files that are written for a command. -/
structure Artifacts where
  name : Text
  manifest : Text
  pipeline : Text
deriving DecidableEq, Repr

namespace Artifacts

/-- The files for a command under a name, of which the manifest will stand at `manifestPath`. -/
def render
    (command : ContainerCommand) (name manifestPath : Text) (schema : SchemaVersions) :
    Except ValidationError Artifacts :=
  (Pipeline.ofManifest name manifestPath schema).map fun pipeline =>
    { name
      manifest := (Manifest.ofCommand command name schema).text
      pipeline := Yaml.documentText pipeline.toYaml }

end Artifacts

end RunManifest
