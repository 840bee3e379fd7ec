import RunManifest.Command
import RunManifest.Proofs.CommandLine.Groups

/-!
# Interleaved groups

A command is built from five sequences of a line: the values for ports, for the environment and for
the name, the settings of the detach switch, and the positional words.  Each of them is put together
from what the groups of the line say on their own, so that neither the order in which groups of
different kinds stand nor any group for another flag makes a difference.
-/

namespace RunManifest

namespace CommandLine

variable {groups : List (List Text)} {names : List Text}

/-- How an item sets a switch with several names, if it does: to a value, or without one. -/
def Item.setting? (names : List Text) : Item → Option (Option Text)
  | .value flag given => if names.contains flag then some (some given) else none
  | .switch flag => if names.contains flag then some none else none
  | .positional _ => none

theorem filterMap_valueFor?_eq_settings (items : List Item) (names : List Text) :
    items.filterMap (Item.valueFor? names) =
      (items.filterMap (Item.setting? names)).filterMap id := by
  rw [List.filterMap_filterMap]
  congr 1
  funext item
  cases item with
  | value flag given =>
      by_cases named : names.contains flag = true
      · simp only [Item.valueFor?, Item.setting?, if_pos named]
        rfl
      · simp only [Item.valueFor?, Item.setting?, if_neg named]
        rfl
  | switch flag =>
      by_cases named : names.contains flag = true
      · simp only [Item.valueFor?, Item.setting?, if_pos named]
        rfl
      · simp only [Item.valueFor?, Item.setting?, if_neg named]
        rfl
  | positional word =>
      rfl

theorem any_switches_eq_settings (items : List Item) (names : List Text) :
    items.any (Item.switches names) =
      (items.filterMap (Item.setting? names)).any Option.isNone := by
  rw [List.any_filterMap]
  congr 1
  funext item
  cases item with
  | value flag given =>
      by_cases named : names.contains flag = true
      · simp only [Item.switches, Item.setting?, if_pos named]
        rfl
      · simp only [Item.switches, Item.setting?, if_neg named]
  | switch flag =>
      by_cases named : names.contains flag = true
      · simp only [Item.switches, Item.setting?, named]
        rfl
      · simp only [Item.switches, Item.setting?, named]
        rfl
  | positional word =>
      rfl

/-- Whether a switch is on depends on its settings alone. -/
theorem Flags.isEnabled_of_settings {first second : List Item}
    (same : first.filterMap (Item.setting? names) = second.filterMap (Item.setting? names)) :
    (ofItems first).isEnabled names = (ofItems second).isEnabled names := by
  have sameValues : (ofItems first).valuesOf names = (ofItems second).valuesOf names := by
    rw [valuesOf_ofItems, valuesOf_ofItems, filterMap_valueFor?_eq_settings, same,
      ← filterMap_valueFor?_eq_settings]
  have sameSwitch : (ofItems first).hasSwitch names = (ofItems second).hasSwitch names := by
    rw [hasSwitch_ofItems, hasSwitch_ofItems, any_switches_eq_settings, same,
      ← any_switches_eq_settings]
  rw [isEnabled, isEnabled, lastValue?, lastValue?, sameValues, sameSwitch]

/-- The values that groups give to a flag with several names. -/
def groupValues (names : List Text) (groups : List (List Text)) : List Text :=
  groups.flatMap fun group => (Flags.ofWords group).valuesOf names

/-- How groups set a switch with several names. -/
def groupSettings (names : List Text) (groups : List (List Text)) : List (Option Text) :=
  groups.flatMap fun group => (items group).filterMap (Item.setting? names)

/-- The words of groups that are no flags. -/
def groupPositionals (groups : List (List Text)) : List Text :=
  groups.flatMap fun group => (Flags.ofWords group).positionals

theorem filterMap_items_groups
    {kind : Type} (areGroups : ∀ group ∈ groups, IsGroup group) (choose : Item → Option kind) :
    (items groups.flatten).filterMap choose =
      groups.flatMap fun group => (items group).filterMap choose := by
  rw [items_groups areGroups, List.filterMap_flatMap]

theorem valuesOf_groups (areGroups : ∀ group ∈ groups, IsGroup group) (names : List Text) :
    (Flags.ofWords groups.flatten).valuesOf names = groupValues names groups := by
  rw [Flags.ofWords, Flags.valuesOf_ofItems, filterMap_items_groups areGroups, groupValues]
  congr 1
  funext group
  exact (Flags.valuesOf_ofItems (items group) names).symm

theorem positionals_groups (areGroups : ∀ group ∈ groups, IsGroup group) :
    (Flags.ofWords groups.flatten).positionals = groupPositionals groups := by
  rw [Flags.ofWords, Flags.positionals_ofItems, filterMap_items_groups areGroups, groupPositionals]
  congr 1
  funext group
  exact (Flags.positionals_ofItems (items group)).symm

end CommandLine

/-! ## Commands of groups -/

namespace ContainerCommand

open CommandLine

variable {flags otherFlags : Flags} {groups others : List (List Text)} {default : Protocol}

/-- Two sequences of groups give the same values for ports, environment and name in the same order,
set the detach switch in the same ways, and hold the same positional words.  What they say about
other flags, and how the groups are mixed, may differ. -/
structure SayTheSame (groups others : List (List Text)) : Prop where
  ports : groupValues portFlags groups = groupValues portFlags others
  environment : groupValues envFlags groups = groupValues envFlags others
  name : groupValues nameFlags groups = groupValues nameFlags others
  detach : groupSettings detachFlags groups = groupSettings detachFlags others
  positionals : groupPositionals groups = groupPositionals others

/-- Building reads nothing else of the flags. -/
theorem build_congr
    (ports : flags.valuesOf portFlags = otherFlags.valuesOf portFlags)
    (environment : flags.valuesOf envFlags = otherFlags.valuesOf envFlags)
    (name : flags.valuesOf nameFlags = otherFlags.valuesOf nameFlags)
    (detach : flags.isEnabled detachFlags = otherFlags.isEnabled detachFlags)
    (positionals : flags.positionals = otherFlags.positionals) :
    build default flags = build default otherFlags := by
  have samePorts : givenPorts default flags = givenPorts default otherFlags := by
    rw [givenPorts, givenPorts, ports]
  have sameEnvironment : givenEnvVars flags = givenEnvVars otherFlags := by
    rw [givenEnvVars, givenEnvVars, environment]
  have sameName : givenName? flags = givenName? otherFlags := by
    rw [givenName?, givenName?, Flags.lastValue?, Flags.lastValue?, name]
  have sameImage : givenImage? flags = givenImage? otherFlags := by
    rw [givenImage?, givenImage?, positionals]
  rw [build, build, samePorts, sameEnvironment, sameName, sameImage, detach]

/-- Lines of groups that say the same are built to the same command, or refused with the same
error. -/
theorem build_of_sayTheSame
    (areGroups : ∀ group ∈ groups, IsGroup group) (othersAre : ∀ group ∈ others, IsGroup group)
    (same : SayTheSame groups others) (default : Protocol) :
    build default (Flags.ofWords groups.flatten) =
      build default (Flags.ofWords others.flatten) := by
  apply build_congr
  · rw [valuesOf_groups areGroups, valuesOf_groups othersAre, same.ports]
  · rw [valuesOf_groups areGroups, valuesOf_groups othersAre, same.environment]
  · rw [valuesOf_groups areGroups, valuesOf_groups othersAre, same.name]
  · apply Flags.isEnabled_of_settings
    rw [filterMap_items_groups areGroups, filterMap_items_groups othersAre]
    exact same.detach
  · rw [positionals_groups areGroups, positionals_groups othersAre, same.positionals]

def mixedGroups : List (List Text) :=
  [["-dp", "80:8080"], ["--rm"], ["-e", "A=--"], ["nginx"], ["-v", "--"],
    ["--publish=53:53"]].map fun group => group.map String.toList

def sortedGroups : List (List Text) :=
  [["--network", "-p"], ["-p80:8080"], ["--port", "53:53"], ["-eA=--"], ["-it"], ["--detach"],
    ["nginx"]].map fun group => group.map String.toList

theorem build_mixedGroups :
    SayTheSame mixedGroups sortedGroups ∧
      build .udp (Flags.ofWords mixedGroups.flatten) =
        build .udp (Flags.ofWords sortedGroups.flatten) := by
  have areGroups : ∀ group ∈ mixedGroups, IsGroup group := by
    intro group member
    simp only [mixedGroups, List.map_cons, List.map_nil, List.mem_cons, List.not_mem_nil,
      or_false] at member
    rcases member with rfl | rfl | rfl | rfl | rfl | rfl
    · exact .valued (by decide +kernel) _
    · exact .alone (by decide +kernel) (by decide +kernel)
    · exact .valued (by decide +kernel) _
    · exact .alone (by decide +kernel) (by decide +kernel)
    · exact .valued (by decide +kernel) _
    · exact .alone (by decide +kernel) (by decide +kernel)
  have sortedAre : ∀ group ∈ sortedGroups, IsGroup group := by
    intro group member
    simp only [sortedGroups, List.map_cons, List.map_nil, List.mem_cons, List.not_mem_nil,
      or_false] at member
    rcases member with rfl | rfl | rfl | rfl | rfl | rfl | rfl
    · exact .valued (by decide +kernel) _
    · exact .alone (by decide +kernel) (by decide +kernel)
    · exact .valued (by decide +kernel) _
    · exact .alone (by decide +kernel) (by decide +kernel)
    · exact .alone (by decide +kernel) (by decide +kernel)
    · exact .alone (by decide +kernel) (by decide +kernel)
    · exact .alone (by decide +kernel) (by decide +kernel)
  have same : SayTheSame mixedGroups sortedGroups :=
    { ports := by decide +kernel
      environment := by decide +kernel
      name := by decide +kernel
      detach := by decide +kernel
      positionals := by decide +kernel }
  exact ⟨same, build_of_sayTheSame areGroups sortedAre same .udp⟩

end ContainerCommand

end RunManifest
