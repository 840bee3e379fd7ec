import RunManifest.Manifest
import RunManifest.Proofs.Text

/-!
# The ports of a service and of its container

The ports of a service and of its container are made on their own from the mappings of a command.
Every service port finds the container port that comes from its own mapping by name. By name and
protocol it finds it only if the mapping is one of TCP, because container ports are written without
a protocol.
-/

namespace RunManifest

theorem portName_injective {first second : Nat} (same : portName first = portName second) :
    first = second := by
  apply Text.decimal_injective
  exact List.append_cancel_left same

namespace ContainerPort

/-- The positions of the ports that satisfy a condition. -/
def positions (wanted : ContainerPort → Bool) (ports : List ContainerPort) : List Nat :=
  (ports.zipIdx.filter fun entry => wanted entry.1).map Prod.snd

variable {wanted : ContainerPort → Bool} {ports : List ContainerPort} {index : Nat}

theorem mem_positions_iff :
    index ∈ positions wanted ports ↔ ∃ port, ports[index]? = some port ∧ wanted port = true := by
  rw [positions, List.mem_map]
  constructor
  · rintro ⟨⟨port, position⟩, member, rfl⟩
    obtain ⟨stands, hit⟩ := List.mem_filter.mp member
    exact ⟨port, List.mk_mem_zipIdx_iff_getElem?.mp stands, hit⟩
  · rintro ⟨port, stands, hit⟩
    exact ⟨(port, index),
      List.mem_filter.mpr ⟨List.mk_mem_zipIdx_iff_getElem?.mpr stands, hit⟩, rfl⟩

theorem nodup_positions : (positions wanted ports).Nodup := by
  have allDistinct : (ports.zipIdx.map Prod.snd).Nodup := by
    rw [List.zipIdx_map_snd]
    exact List.nodup_range'
  exact allDistinct.sublist (List.filter_sublist.map Prod.snd)

theorem positions_eq_singleton_iff :
    positions wanted ports = [index] ↔
      ∀ position, (∃ port, ports[position]? = some port ∧ wanted port = true) ↔
        position = index := by
  rw [← List.perm_singleton,
    List.perm_ext_iff_of_nodup nodup_positions (List.pairwise_singleton ..)]
  simp only [mem_positions_iff, List.mem_singleton]

/-- A condition that only ports of one name satisfy is satisfied by at most one port, the one at
the position of that name. -/
theorem positions_ofMapping_eq_singleton_iff
    {mappings : List PortMapping} {mapping : PortMapping}
    (found : mappings[index]? = some mapping)
    (named : ∀ port, wanted port = true → port.name = portName index) :
    positions wanted (mappings.mapIdx ofMapping) = [index] ↔
      wanted (ofMapping index mapping) = true := by
  have portFound : (mappings.mapIdx ofMapping)[index]? = some (ofMapping index mapping) := by
    rw [List.getElem?_mapIdx, found, Option.map_some]
  rw [positions_eq_singleton_iff]
  constructor
  · intro alone
    obtain ⟨port, stands, hit⟩ := (alone index).mpr rfl
    rw [portFound] at stands
    rwa [Option.some.inj stands]
  · intro hit position
    constructor
    -- Another port that satisfies the condition has the same name and so the same position.
    · rintro ⟨port, stands, other⟩
      rw [List.getElem?_mapIdx, Option.map_eq_some_iff] at stands
      obtain ⟨_, _, rfl⟩ := stands
      exact portName_injective (named _ other)
    · rintro rfl
      exact ⟨ofMapping position mapping, portFound, hit⟩

end ContainerPort

namespace Manifest

/-- A service and a container have one port each for every mapping, in the order of the mappings,
and every service port finds the container port at its own position by name, and no other. -/
structure LinksPorts
    (service : Service) (container : Container) (mappings : List PortMapping) : Prop where
  serviceCount : service.spec.ports.length = mappings.length
  containerCount : container.ports.length = mappings.length
  servicePort : ∀ index : Fin mappings.length,
    service.spec.ports[index.val]? = some
      { name := "p-".toList ++ Text.decimal index
        port := mappings[index].hostPort
        protocol := mappings[index].protocol
        targetPort := "p-".toList ++ Text.decimal index }
  containerPort : ∀ index : Fin mappings.length,
    container.ports[index.val]? = some
      { name := "p-".toList ++ Text.decimal index
        containerPort := mappings[index].containerPort }
  target : ∀ index servicePort, service.spec.ports[index]? = some servicePort →
    ContainerPort.positions (fun port => port.name = servicePort.targetPort) container.ports =
      [index]

/-- All labels of a manifest, and all that are looked for, are the same. -/
structure SharesLabels (manifest : Manifest) (labels : Labels) : Prop where
  selector : manifest.service.spec.selector = labels
  matchLabels : manifest.deployment.spec.matchLabels = labels
  template : manifest.deployment.spec.template.labels = labels
  service : manifest.service.metadata.labels = labels
  deployment : manifest.deployment.metadata.labels = labels

variable (command : ContainerCommand) (name : Text) (schema : SchemaVersions)

theorem linksPorts_ofCommand :
    LinksPorts (.ofCommand command name schema) (.ofCommand command name) command.ports where
  serviceCount := List.length_mapIdx
  containerCount := List.length_mapIdx
  servicePort := by
    intro index
    simp [Service.ofCommand, ServicePort.ofMapping, portName]
  containerPort := by
    intro index
    simp [Container.ofCommand, ContainerPort.ofMapping, portName]
  target := by
    intro index servicePort found
    simp only [Service.ofCommand, List.getElem?_mapIdx, Option.map_eq_some_iff] at found
    obtain ⟨mapping, mappingFound, rfl⟩ := found
    apply (ContainerPort.positions_ofMapping_eq_singleton_iff mappingFound _).mpr
    · exact decide_eq_true rfl
    · intro port
      exact of_decide_eq_true

theorem sharesLabels_ofCommand :
    (ofCommand command name schema).SharesLabels [("app".toList, name)] where
  selector := rfl
  matchLabels := rfl
  template := rfl
  service := rfl
  deployment := rfl

/-- The service and the only container of a command are linked port by port and label by label. -/
theorem linked_ofCommand :
    ∃ container, (ofCommand command name schema).deployment.spec.template.containers = [container] ∧
      LinksPorts (ofCommand command name schema).service container command.ports ∧
      (ofCommand command name schema).SharesLabels [("app".toList, name)] ∧
      ∀ index : Nat, container.env[index]? =
        command.envVars[index]?.map fun envVar => { name := envVar.key, value := envVar.value } := by
  refine ⟨.ofCommand command name, rfl, ?_, ?_, ?_⟩
  · exact linksPorts_ofCommand command name schema
  · exact sharesLabels_ofCommand command name schema
  · intro index
    rw [Container.ofCommand, List.getElem?_map]
    rfl

end Manifest

/-! ## Linkage by name and protocol -/

/-- The value of a field of a mapping. -/
def Yaml.Value.field? (key : Text) : Yaml.Value → Option Yaml.Value
  | .mapping fields => fields.lookup key
  | _ => none

/-- The protocol that a cluster takes a written port to speak, which is TCP if none is written. -/
def Yaml.Value.portProtocol? (port : Yaml.Value) : Option Text :=
  match port.field? "protocol".toList with
  | none => some "TCP".toList
  | some (.text name) => some name
  | some _ => none

theorem ContainerPort.portProtocol?_toYaml (port : ContainerPort) :
    port.toYaml.portProtocol? = some Protocol.tcp.name := by
  rfl

theorem ServicePort.portProtocol?_toYaml (port : ServicePort) :
    port.toYaml.portProtocol? = some port.protocol.name := by
  rfl

/-- Does a cluster lead a service port to a container port? -/
def ServicePort.leadsTo (servicePort : ServicePort) (port : ContainerPort) : Bool :=
  port.name = servicePort.targetPort &&
    port.toYaml.portProtocol? = servicePort.toYaml.portProtocol?

theorem ServicePort.leadsTo_ofMapping_iff (index : Nat) (mapping : PortMapping) :
    (ofMapping index mapping).leadsTo (.ofMapping index mapping) = true ↔
      mapping.protocol = .tcp := by
  have sameName :
      (ContainerPort.ofMapping index mapping).name = (ofMapping index mapping).targetPort := by
    rfl
  rw [leadsTo, ContainerPort.portProtocol?_toYaml, portProtocol?_toYaml, Bool.and_eq_true,
    decide_eq_true_iff, decide_eq_true_iff, ofMapping]
  cases mapping.protocol with
  | tcp =>
      exact ⟨fun _ => rfl, fun _ => ⟨sameName, rfl⟩⟩
  | udp =>
      constructor
      · rintro ⟨_, sameProtocol⟩
        have sameText : Protocol.tcp.name = Protocol.udp.name := Option.some.inj sameProtocol
        exact absurd sameText (by decide)
      · intro sameProtocol
        cases sameProtocol

namespace Manifest

/-- Every service port finds the port of the only container at its own position by name and
protocol, and no other. -/
def ResolvesPorts (manifest : Manifest) : Prop :=
  ∃ container, manifest.deployment.spec.template.containers = [container] ∧
    ∀ index servicePort, manifest.service.spec.ports[index]? = some servicePort →
      ContainerPort.positions servicePort.leadsTo container.ports = [index]

theorem positions_leadsTo_ofCommand_iff
    (command : ContainerCommand) (name : Text) {index : Nat} {mapping : PortMapping}
    (found : command.ports[index]? = some mapping) :
    ContainerPort.positions (ServicePort.ofMapping index mapping).leadsTo
        (Container.ofCommand command name).ports = [index] ↔
      mapping.protocol = .tcp := by
  have named : ∀ port, (ServicePort.ofMapping index mapping).leadsTo port = true →
      port.name = portName index := by
    intro port leads
    exact of_decide_eq_true (Bool.and_eq_true_iff.mp leads).1
  rw [← ServicePort.leadsTo_ofMapping_iff index mapping]
  exact ContainerPort.positions_ofMapping_eq_singleton_iff found named

/-- The ports of a manifest resolve exactly if all mappings are of TCP. -/
theorem resolvesPorts_ofCommand_iff
    (command : ContainerCommand) (name : Text) (schema : SchemaVersions) :
    (ofCommand command name schema).ResolvesPorts ↔
      ∀ mapping ∈ command.ports, mapping.protocol = .tcp := by
  constructor
  · rintro ⟨container, single, resolves⟩ mapping member
    obtain ⟨index, found⟩ := List.mem_iff_getElem?.mp member
    obtain rfl : Container.ofCommand command name = container := List.singleton_inj.mp single
    apply (positions_leadsTo_ofCommand_iff command name found).mp
    apply resolves
    rw [ofCommand, Service.ofCommand, List.getElem?_mapIdx, found, Option.map_some]
  · intro allTcp
    refine ⟨.ofCommand command name, rfl, ?_⟩
    intro index servicePort stands
    simp only [ofCommand, Service.ofCommand, List.getElem?_mapIdx, Option.map_eq_some_iff] at stands
    obtain ⟨mapping, found, rfl⟩ := stands
    apply (positions_leadsTo_ofCommand_iff command name found).mpr
    exact allTcp mapping (List.mem_of_getElem? found)

def nameServer : ContainerCommand where
  name? := some "dns".toList
  daemon := true
  ports := [⟨80, 8080, .tcp⟩, ⟨53, 5353, .udp⟩]
  envVars := []
  image := "dns:1".toList

theorem not_resolvesPorts_nameServer :
    ¬ (ofCommand nameServer "dns".toList {}).ResolvesPorts := by
  rintro ⟨container, single, resolves⟩
  obtain rfl : Container.ofCommand nameServer "dns".toList = container :=
    List.singleton_inj.mp single
  exact absurd (resolves 1 (.ofMapping 1 ⟨53, 5353, .udp⟩) rfl) (by decide)

end Manifest

end RunManifest
