import RunManifest.Proofs.Command.Building
import RunManifest.Proofs.CommandLine.Flags
import RunManifest.Proofs.CommandLine.Quoting
import RunManifest.Proofs.EnvVar
import RunManifest.Proofs.Port

/-!
# Written commands

A command is written as a command line by giving every part of it its own flag and every word its
own quotes. Reading the line gives the command back, whatever characters its texts hold and
whichever protocol is the default.
-/

namespace RunManifest

open CommandLine

namespace ContainerCommand

variable (command : ContainerCommand)

def flagWords : List Text :=
  (if command.daemon then [['-', 'd']] else []) ++
    ((command.name?.toList.map fun name => '-' :: '-' :: ("name".toList ++ '=' :: name)) ++
      ((command.ports.flatMap fun mapping => [['-', 'p'], mapping.spelling]) ++
        (command.envVars.flatMap fun envVar => [['-', 'e'], envVar.assignment])))

/-- The words of a command, of which the last is the image whatever it looks like. -/
def commandWords : List Text :=
  "docker".toList :: "run".toList :: (command.flagWords ++ [['-', '-'], command.image])

def commandLine : Text :=
  quotedLine command.commandWords

/-- The commands that can be given on a command line. -/
structure Writable : Prop where
  nameAccepted : checkName command.name? = .ok ()
  portsPositive : ∀ mapping ∈ command.ports, mapping.containerPort ≠ 0 ∧ mapping.hostPort ≠ 0
  portsDistinct : command.ports.Nodup
  keysUsable : ∀ envVar ∈ command.envVars, envVar.key ≠ [] ∧ '=' ∉ envVar.key
  envVarsDistinct : command.envVars.Nodup
  imagePresent : command.image ≠ []
  imageEnds : ∀ last ∈ command.image.getLast?, last ≠ '\n' ∧ last ≠ '\r'

/-! ## Reading back -/

def commandItems : List Item :=
  (if command.daemon then [.switch ['d']] else []) ++
    ((command.name?.toList.map fun name => .value "name".toList name) ++
      ((command.ports.map fun mapping => .value ['p'] mapping.spelling) ++
        ((command.envVars.map fun envVar => .value ['e'] envVar.assignment) ++
          [.positional command.image])))

theorem items_flagWords :
    items (command.flagWords ++ [['-', '-'], command.image]) = command.commandItems := by
  have readEnd :
      items [['-', '-'], command.image] = [.positional command.image] :=
    items_terminator [command.image]
  have readName : ∀ rest : List Text,
      items ((command.name?.toList.map fun name =>
        '-' :: '-' :: ("name".toList ++ '=' :: name)) ++ rest) =
      (command.name?.toList.map fun name => .value "name".toList name) ++ items rest := by
    intro rest
    cases command.name? with
    | none =>
        rfl
    | some name =>
        exact items_longAssignment name (by decide)
  have readSwitch : ∀ rest : List Text,
      items ((if command.daemon then [['-', 'd']] else []) ++ rest) =
        (if command.daemon then [.switch ['d']] else []) ++ items rest := by
    intro rest
    cases command.daemon with
    | false =>
        rfl
    | true =>
        exact items_shortSwitch (by decide) (by decide)
  rw [flagWords, List.append_assoc, List.append_assoc, List.append_assoc, readSwitch, readName,
    items_shortValues (by decide), items_shortValues (by decide), readEnd, commandItems]

theorem ofCommandLine_commandLine :
    Flags.ofCommandLine command.commandLine = Flags.ofItems command.commandItems := by
  have uncalled :
      dropInvocation command.commandWords = command.flagWords ++ [['-', '-'], command.image] := by
    rfl
  rw [Flags.ofCommandLine, commandLine, words_quotedLine, uncalled, Flags.ofWords,
    items_flagWords]

/-- The values of any flag in the line of a command, by the letters and names of the flag. -/
theorem valuesOf_commandItems (names : List Text) :
    (Flags.ofItems command.commandItems).valuesOf names =
      (if "name".toList ∈ names then command.name?.toList else []) ++
        ((if ['p'] ∈ names then command.ports.map PortMapping.spelling else []) ++
          (if ['e'] ∈ names then command.envVars.map EnvVar.assignment else [])) := by
  have noSwitch :
      (if command.daemon then [Item.switch ['d']] else []).filterMap (Item.valueFor? names) =
        [] := by
    cases command.daemon <;> rfl
  have noWord :
      [Item.positional command.image].filterMap (Item.valueFor? names) = [] := by
    rfl
  have nameValues := filterMap_valueFor? names "name".toList id command.name?.toList
  simp only [id_eq, List.map_id] at nameValues
  rw [Flags.valuesOf_ofItems, commandItems]
  simp only [List.filterMap_append, nameValues, filterMap_valueFor?, noSwitch, noWord,
    List.nil_append, List.append_nil]

theorem isEnabled_commandItems :
    (Flags.ofItems command.commandItems).isEnabled detachFlags = command.daemon := by
  have noValue : (Flags.ofItems command.commandItems).lastValue? detachFlags = none := by
    rw [Flags.lastValue?, valuesOf_commandItems]
    rfl
  simp only [Flags.isEnabled, noValue]
  rw [Flags.hasSwitch_ofItems, commandItems]
  cases command.daemon with
  | false =>
      simp [Item.switches, Function.comp_def]
  | true =>
      rfl

theorem positionals_commandItems :
    (Flags.ofItems command.commandItems).positionals = [command.image] := by
  have noSwitch :
      (if command.daemon then [Item.switch ['d']] else []).filterMap Item.positional? = [] := by
    cases command.daemon <;> rfl
  have noName := filterMap_positional? "name".toList id command.name?.toList
  simp only [id_eq] at noName
  rw [Flags.positionals_ofItems, commandItems]
  simp only [List.filterMap_append, noSwitch, noName, filterMap_positional?, List.nil_append]
  rfl

variable {command}

theorem givenName?_commandItems (accepted : checkName command.name? = .ok ()) :
    givenName? (Flags.ofItems command.commandItems) = command.name? := by
  have last :
      (Flags.ofItems command.commandItems).lastValue? nameFlags = command.name? := by
    rw [Flags.lastValue?, valuesOf_commandItems]
    cases command.name? <;> rfl
  rw [givenName?_eq_iff]
  cases given : command.name? with
  | none =>
      exact .absent (last.trans given)
  | some name =>
      have present : name ≠ [] := by
        rintro rfl
        rw [given] at accepted
        cases accepted
      exact .named (last.trans given) present

theorem givenImage?_commandItems (writable : command.Writable) :
    givenImage? (Flags.ofItems command.commandItems) = some command.image := by
  have last :
      (Flags.ofItems command.commandItems).positionals.getLast? = some (command.image ++ []) := by
    rw [positionals_commandItems, List.append_nil, List.getLast?_singleton]
  exact givenImage?_eq_some_iff.mpr
    ⟨⟨[], last, by simp⟩, writable.imagePresent, writable.imageEnds⟩

theorem givenPorts_commandItems (writable : command.Writable) (default : Protocol) :
    givenPorts default (Flags.ofItems command.commandItems) = .ok command.ports := by
  have values :
      (Flags.ofItems command.commandItems).valuesOf portFlags =
        command.ports.map PortMapping.spelling := by
    rw [valuesOf_commandItems, if_neg (by decide), if_pos (by decide), if_neg (by decide),
      List.nil_append, List.append_nil]
  rw [givenPorts, values]
  apply Outcomes.mapM_eraseDups_map_eq_ok writable.portsDistinct
  intro mapping member
  obtain ⟨containerPositive, hostPositive⟩ := writable.portsPositive mapping member
  exact PortMapping.parse_spelling default containerPositive hostPositive

theorem givenEnvVars_commandItems (writable : command.Writable) :
    givenEnvVars (Flags.ofItems command.commandItems) = .ok command.envVars := by
  have values :
      (Flags.ofItems command.commandItems).valuesOf envFlags =
        command.envVars.map EnvVar.assignment := by
    rw [valuesOf_commandItems, if_neg (by decide), if_neg (by decide), if_pos (by decide),
      List.nil_append, List.nil_append]
  rw [givenEnvVars, values]
  apply Outcomes.mapM_eraseDups_map_eq_ok writable.envVarsDistinct
  intro envVar member
  obtain ⟨present, unbroken⟩ := writable.keysUsable envVar member
  exact EnvVar.parse_assignment ⟨present, unbroken⟩

theorem trim_commandLine_ne_nil : Text.trim command.commandLine ≠ [] := by
  intro blank
  have quoteMember : '\'' ∈ command.commandLine := by
    simp [commandLine, commandWords, quotedLine, quoted, List.intercalate]
  exact absurd (Text.trim_eq_nil_iff.mp blank _ quoteMember) (by decide)

/-- Reading the line of a command gives the command back. -/
theorem parse_commandLine (default : Protocol) (writable : command.Writable) :
    parse default command.commandLine = .ok command := by
  rw [parse, if_neg trim_commandLine_ne_nil, ofCommandLine_commandLine, build,
    givenPorts_commandItems writable, givenEnvVars_commandItems writable,
    givenName?_commandItems writable.nameAccepted]
  simp only [bind, Except.bind, writable.nameAccepted, givenImage?_commandItems writable,
    isEnabled_commandItems]

def disguised : ContainerCommand where
  name? := some "it's --name=x".toList
  daemon := true
  ports := [⟨80, 8080, .tcp⟩, ⟨53, 53, .udp⟩, ⟨80, 8080, .udp⟩]
  envVars := [⟨"--env".toList, "A=B 'C'\n\"\\".toList⟩, ⟨"-p".toList, []⟩]
  image := "\r\n-d $HOME".toList

theorem parse_disguised :
    disguised.Writable ∧ parse .udp disguised.commandLine = .ok disguised := by
  have writable : disguised.Writable :=
    { nameAccepted := rfl
      portsPositive := by decide
      portsDistinct := by decide
      keysUsable := by decide
      envVarsDistinct := by decide
      imagePresent := by decide
      imageEnds := by simp [disguised] }
  exact ⟨writable, parse_commandLine .udp writable⟩

end ContainerCommand

end RunManifest
