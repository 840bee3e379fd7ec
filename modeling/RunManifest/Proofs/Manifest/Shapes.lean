import RunManifest.Manifest
import RunManifest.Proofs.Yaml.Shape

/-!
# Shapes of the written documents

Services have one shape, deployments have one, and pipelines have one, whatever command they are
made for.
-/

namespace RunManifest

open Yaml

def appLabelsShape : Shape :=
  .mapping [(.mk "app".toList, .text)]

def labelledShape : Shape :=
  .mapping [(.mk "name".toList, .text), (.mk "labels".toList, appLabelsShape)]

def ServicePort.shape : Shape :=
  .mapping
    [ (.mk "name".toList, .text), (.mk "port".toList, .number), (.mk "protocol".toList, .text),
      (.mk "targetPort".toList, .text) ]

def Service.specShape : Shape :=
  .mapping
    [ (.mk "clusterIP".toList, .text), (.mk "selector".toList, appLabelsShape),
      (.mk "ports".toList, .list ServicePort.shape) ]

def Service.shapes : List (Key × Shape) :=
  [ (.mk "apiVersion".toList, .text), (.mk "kind".toList, .text),
    (.mk "metadata".toList, labelledShape), (.mk "spec".toList, specShape) ]

def ContainerPort.shape : Shape :=
  .mapping [(.mk "name".toList, .text), (.mk "containerPort".toList, .number)]

def EnvEntry.shape : Shape :=
  .mapping [(.mk "name".toList, .text), (.mk "value".toList, .text)]

def Container.shape : Shape :=
  .mapping
    [ (.mk "name".toList, .text), (.mk "image".toList, .text),
      (.mk "ports".toList, .list ContainerPort.shape), (.mk "env".toList, .list EnvEntry.shape) ]

def Deployment.templateShape : Shape :=
  .mapping
    [ (.mk "metadata".toList, .mapping [(.mk "labels".toList, appLabelsShape)]),
      (.mk "spec".toList, .mapping [(.mk "containers".toList, .list Container.shape)]) ]

def Deployment.specShape : Shape :=
  .mapping
    [ (.mk "replicas".toList, .number),
      (.mk "selector".toList, .mapping [(.mk "matchLabels".toList, appLabelsShape)]),
      (.mk "template".toList, templateShape) ]

def Deployment.shapes : List (Key × Shape) :=
  [ (.mk "apiVersion".toList, .text), (.mk "kind".toList, .text),
    (.mk "metadata".toList, labelledShape), (.mk "spec".toList, specShape) ]

def Pipeline.shapes : List (Key × Shape) :=
  [ (.mk "apiVersion".toList, .text),
    (.mk "kind".toList, .text),
    (.mk "metadata".toList, .mapping [(.mk "name".toList, .text)]),
    (.mk "deploy".toList, .mapping
      [(.mk "kubectl".toList, .mapping [(.mk "manifests".toList, .list .text)])]) ]

theorem Yaml.Fits.list_map {Item : Type} {shape : Shape} {toYaml : Item → Value}
    (fit : ∀ item, Fits shape (toYaml item)) (items : List Item) :
    Fits (.list shape) (.list (items.map toYaml)) := by
  apply Fits.list
  intro value member
  obtain ⟨item, -, rfl⟩ := List.mem_map.mp member
  exact fit item

theorem fits_appLabels (name : Text) : Fits appLabelsShape (appLabels name).toYaml :=
  .mapping (.cons .text .nil)

theorem ObjectMeta.fits_toYaml (name : Text) : Fits labelledShape (labelled name).toYaml :=
  .mapping (.cons .text (.cons (fits_appLabels name) .nil))

theorem ServicePort.fits_toYaml (port : ServicePort) : Fits shape port.toYaml :=
  .mapping (.cons .text (.cons .number (.cons .text (.cons .text .nil))))

theorem ContainerPort.fits_toYaml (port : ContainerPort) : Fits shape port.toYaml :=
  .mapping (.cons .text (.cons .number .nil))

theorem EnvEntry.fits_toYaml (entry : EnvEntry) : Fits shape entry.toYaml :=
  .mapping (.cons .text (.cons .text .nil))

theorem Container.fits_toYaml (container : Container) : Fits shape container.toYaml :=
  .mapping <| .cons .text <| .cons .text <|
    .cons (.list_map ContainerPort.fits_toYaml container.ports) <|
    .cons (.list_map EnvEntry.fits_toYaml container.env) .nil

/-! ## Documents -/

variable (command : ContainerCommand) (name : Text) (schema : SchemaVersions)

/-- The metadata that services and deployments begin with, and what is their own. -/
theorem fieldsFit_object {apiVersion kind : Text} {shape : Shape} {spec : Value}
    (fit : Fits shape spec) :
    FieldsFit
      [ (.mk "apiVersion".toList, .text), (.mk "kind".toList, .text),
        (.mk "metadata".toList, labelledShape), (.mk "spec".toList, shape) ]
      [ ("apiVersion".toList, .text apiVersion), ("kind".toList, .text kind),
        ("metadata".toList, (ObjectMeta.labelled name).toYaml), ("spec".toList, spec) ] :=
  .cons .text (.cons .text (.cons (ObjectMeta.fits_toYaml name) (.cons fit .nil)))

theorem Service.fieldsFit_ofCommand :
    FieldsFit shapes (ofCommand command name schema).toYaml := by
  apply fieldsFit_object
  have ports := Fits.list_map ServicePort.fits_toYaml (ofCommand command name schema).spec.ports
  exact .mapping (.cons .text (.cons (fits_appLabels name) (.cons ports .nil)))

theorem Deployment.fieldsFit_ofCommand :
    FieldsFit shapes (ofCommand command name schema).toYaml := by
  apply fieldsFit_object
  have containers := Fits.list_map Container.fits_toYaml [.ofCommand command name]
  have labels := fits_appLabels name
  have template : Fits templateShape _ :=
    .mapping (.cons (.mapping (.cons labels .nil))
      (.cons (.mapping (.cons containers .nil)) .nil))
  exact .mapping (.cons .number (.cons (.mapping (.cons labels .nil)) (.cons template .nil)))

theorem Pipeline.fieldsFit_toYaml (pipeline : Pipeline) : FieldsFit shapes pipeline.toYaml := by
  have manifests : Fits (.list .text) (.list (pipeline.manifests.map Value.text)) :=
    .list_map (fun _ => .text) pipeline.manifests
  exact .cons .text (.cons .text (.cons (.mapping (.cons .text .nil))
    (.cons (.mapping (.cons (.mapping (.cons manifests .nil)) .nil)) .nil)))

end RunManifest
