import RunManifest.Command
import RunManifest.Proofs.Outcomes
import RunManifest.Proofs.Text

/-!
# What a command consists of

A command is built if each of its parts is found in the flags, and it holds these parts.  Its name
is the last one that is given and its image the last positional word, without the line breaks that
this word may end with.
-/

namespace RunManifest.ContainerCommand

open CommandLine Outcomes

variable {flags : Flags} {command : ContainerCommand} {default : Protocol}
variable {text image : Text} {name? : Option Text}

/-- The name that is given last, unless it is empty. -/
inductive GivesName (flags : Flags) : Option Text → Prop
  | absent (absent : flags.lastValue? nameFlags = none) : GivesName flags none
  | empty (last : flags.lastValue? nameFlags = some []) : GivesName flags none
  | named {name : Text} (last : flags.lastValue? nameFlags = some name) (present : name ≠ []) :
      GivesName flags (some name)

/-- The last positional word, which may end with line breaks behind the image. -/
structure GivesImage (flags : Flags) (image : Text) : Prop where
  last : ∃ lineBreaks, flags.positionals.getLast? = some (image ++ lineBreaks) ∧
    ∀ character ∈ lineBreaks, character = '\n' ∨ character = '\r'
  present : image ≠ []
  ends : ∀ character ∈ image.getLast?, character ≠ '\n' ∧ character ≠ '\r'

theorem givesName_givenName? (flags : Flags) : GivesName flags (givenName? flags) := by
  rw [givenName?]
  cases last : flags.lastValue? nameFlags with
  | none =>
      exact .absent last
  | some name =>
      by_cases present : name = []
      · subst present
        exact .empty last
      · rw [Option.filter_some, if_pos (by simp [present])]
        exact .named last present

theorem givenName?_eq_iff : givenName? flags = name? ↔ GivesName flags name? := by
  constructor
  · intro given
    rw [← given]
    exact givesName_givenName? flags
  · intro gives
    rw [givenName?]
    cases gives with
    | absent absent =>
        rw [absent]
        rfl
    | empty last =>
        rw [last]
        rfl
    | named last present =>
        rw [last, Option.filter_some, if_pos (by simp [present])]

theorem checkName_eq_ok_iff :
    checkName name? = .ok () ↔ ∀ name ∈ name?, Name.check operation name = .ok () := by
  cases name? <;> simp [checkName]

theorem givenImage?_eq_some_iff : givenImage? flags = some image ↔ GivesImage flags image := by
  constructor
  · intro given
    rw [givenImage?] at given
    cases last : flags.positionals.getLast? with
    | none =>
        rw [last] at given
        cases given
    | some word =>
        simp only [last] at given
        split at given
        · cases given
        · rename_i present
          cases given
          obtain ⟨lineBreaks, parts, onlyBreaks, ends⟩ := Text.dropEndWhile_eq_iff.mp rfl
          refine ⟨⟨lineBreaks, last.trans (congrArg some parts), ?_⟩, present, ?_⟩
          · simpa using onlyBreaks
          · simpa using ends
  · intro gives
    obtain ⟨lineBreaks, last, onlyBreaks⟩ := gives.last
    have kept :
        Text.dropEndWhile (fun character => character == '\n' || character == '\r')
          (image ++ lineBreaks) = image := by
      apply Text.dropEndWhile_eq_iff.mpr
      exact ⟨lineBreaks, rfl, by simpa using onlyBreaks, by simpa using gives.ends⟩
    rw [givenImage?, last]
    simp only [kept]
    cases image with
    | nil =>
        exact absurd rfl gives.present
    | cons first rest =>
        rfl

theorem givenImage?_eq_none_iff :
    givenImage? flags = none ↔ ∀ image, ¬GivesImage flags image := by
  rw [Option.eq_none_iff_forall_ne_some]
  simp only [ne_eq, givenImage?_eq_some_iff]

/-! ## Commands -/

theorem build_eq_ok_iff :
    build default flags = .ok command ↔
      givenPorts default flags = .ok command.ports ∧
        givenEnvVars flags = .ok command.envVars ∧
        givenName? flags = command.name? ∧
        checkName command.name? = .ok () ∧
        givenImage? flags = some command.image ∧
        flags.isEnabled detachFlags = command.daemon := by
  rw [build, bind_eq_ok_iff]
  constructor
  · rintro ⟨ports, portsGiven, rest⟩
    rw [bind_eq_ok_iff] at rest
    obtain ⟨envVars, envVarsGiven, rest⟩ := rest
    rw [bind_eq_ok_iff] at rest
    obtain ⟨_, nameFine, rest⟩ := rest
    cases imageGiven : givenImage? flags with
    | none =>
        rw [imageGiven] at rest
        cases rest
    | some image =>
        rw [imageGiven] at rest
        cases rest
        exact ⟨portsGiven, envVarsGiven, rfl, nameFine, rfl, rfl⟩
  · obtain ⟨name?, daemon, ports, envVars, image⟩ := command
    rintro ⟨portsGiven, envVarsGiven, rfl, nameFine, imageGiven, rfl⟩
    refine ⟨ports, portsGiven, ?_⟩
    rw [bind_eq_ok_iff]
    refine ⟨envVars, envVarsGiven, ?_⟩
    rw [bind_eq_ok_iff]
    refine ⟨(), nameFine, ?_⟩
    rw [imageGiven]

theorem parse_eq_ok_iff :
    parse default text = .ok command ↔
      Text.trim text ≠ [] ∧ build default (Flags.ofCommandLine text) = .ok command := by
  unfold parse
  by_cases bare : Text.trim text = []
  · simp [bare]
  · simp [bare]

end RunManifest.ContainerCommand
