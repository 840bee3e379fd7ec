import RunManifest.Proofs.Command.Building
import RunManifest.Proofs.EnvVar
import RunManifest.Proofs.Name

/-!
# The first fault of a command

Flags give a command exactly if their ports, their variables, their name and their image are all
fit.  Otherwise the first of these that is not is reported, and of several ports or variables the
one that is written first.
-/

namespace RunManifest.ContainerCommand

open CommandLine Outcomes Repetitions

variable {default : Protocol} {flags : Flags} {command : ContainerCommand}
variable {error : ValidationError}

/-- Every value for a port is a mapping. -/
def PortsFit (default : Protocol) (flags : Flags) : Prop :=
  ∀ text ∈ flags.valuesOf portFlags, ∃ mapping, PortMapping.parse default text = .ok mapping

/-- Every value for the environment is an assignment. -/
def EnvVarsFit (flags : Flags) : Prop :=
  ∀ text ∈ flags.valuesOf envFlags,
    ∃ envVar : EnvVar, envVar.IsAssignable ∧ envVar.assignment = text

/-- The name that is given last can be used or is empty. -/
def NameFits (flags : Flags) : Prop :=
  ∀ name, flags.lastValue? nameFlags = some name → name = [] ∨ Name.check operation name = .ok ()

/-- A command has all that the flags give, each port and each variable once. -/
structure Describes (default : Protocol) (flags : Flags) (command : ContainerCommand) : Prop where
  ports : ∃ written, EachOnce (flags.valuesOf portFlags) written ∧
    List.Forall₂ (fun text mapping => PortMapping.parse default text = .ok mapping) written
      command.ports
  envVars : EachOnce (flags.valuesOf envFlags) (command.envVars.map EnvVar.assignment)
  assignable : ∀ envVar ∈ command.envVars, envVar.IsAssignable
  name : GivesName flags command.name?
  accepted : ∀ name ∈ command.name?, Name.check operation name = .ok ()
  image : GivesImage flags command.image
  daemon : command.daemon = flags.isEnabled detachFlags

/-- The first fault in the order ports, environment, name, image. -/
inductive Reports (default : Protocol) (flags : Flags) : ValidationError → Prop
  | port {before behind : List Text} {text : Text} {error : ValidationError}
      (once : EachOnce (flags.valuesOf portFlags) (before ++ text :: behind))
      (fit : ∀ earlier ∈ before, ∃ mapping, PortMapping.parse default earlier = .ok mapping)
      (fails : PortMapping.parse default text = .error error) : Reports default flags error
  | envVar {before behind : List Text} {text : Text} {fault : Fault}
      (portsFit : PortsFit default flags)
      (once : EachOnce (flags.valuesOf envFlags) (before ++ text :: behind))
      (fit : ∀ earlier ∈ before,
        ∃ envVar : EnvVar, envVar.IsAssignable ∧ envVar.assignment = earlier)
      (fails : EnvVar.Fails text fault) : Reports default flags ⟨EnvVar.operation, fault⟩
  | name {name : Text} (portsFit : PortsFit default flags) (envVarsFit : EnvVarsFit flags)
      (last : flags.lastValue? nameFlags = some name) (present : name ≠ [])
      (refused : Name.check operation name ≠ .ok ()) :
      Reports default flags ⟨operation, .invalidName name⟩
  | image (portsFit : PortsFit default flags) (envVarsFit : EnvVarsFit flags)
      (nameFits : NameFits flags) (missing : ∀ image, ¬GivesImage flags image) :
      Reports default flags ⟨operation, .missingImage⟩

theorem givenPorts_eq_ok_iff {ports : List PortMapping} :
    givenPorts default flags = .ok ports ↔
      ∃ written, EachOnce (flags.valuesOf portFlags) written ∧
        List.Forall₂ (fun text mapping => PortMapping.parse default text = .ok mapping) written
          ports := by
  simp only [givenPorts, mapM_eq_ok_iff, eachOnce_iff, exists_eq_left']

theorem exists_givenPorts_iff :
    (∃ ports, givenPorts default flags = .ok ports) ↔ PortsFit default flags := by
  simp only [givenPorts, exists_mapM_eq_ok_iff, List.mem_eraseDups, PortsFit]

theorem givenPorts_eq_error_iff :
    givenPorts default flags = .error error ↔
      ∃ before text behind, EachOnce (flags.valuesOf portFlags) (before ++ text :: behind) ∧
        (∀ earlier ∈ before, ∃ mapping, PortMapping.parse default earlier = .ok mapping) ∧
        PortMapping.parse default text = .error error := by
  simp only [givenPorts, mapM_eq_error_iff, eachOnce_iff]

theorem givenEnvVars_eq_ok_iff {envVars : List EnvVar} :
    givenEnvVars flags = .ok envVars ↔
      EachOnce (flags.valuesOf envFlags) (envVars.map EnvVar.assignment) ∧
        ∀ envVar ∈ envVars, envVar.IsAssignable := by
  simp only [givenEnvVars, mapM_eq_ok_iff, EnvVar.parse_eq_ok_iff, forall₂_written_iff,
    eachOnce_iff]

theorem exists_givenEnvVars_iff :
    (∃ envVars, givenEnvVars flags = .ok envVars) ↔ EnvVarsFit flags := by
  simp only [givenEnvVars, exists_mapM_eq_ok_iff, List.mem_eraseDups, EnvVarsFit,
    EnvVar.parse_eq_ok_iff]

theorem givenEnvVars_eq_error_iff :
    givenEnvVars flags = .error error ↔
      ∃ before text behind, EachOnce (flags.valuesOf envFlags) (before ++ text :: behind) ∧
        (∀ earlier ∈ before,
          ∃ envVar : EnvVar, envVar.IsAssignable ∧ envVar.assignment = earlier) ∧
        ∃ fault, EnvVar.Fails text fault ∧ error = ⟨EnvVar.operation, fault⟩ := by
  simp only [givenEnvVars, mapM_eq_error_iff, eachOnce_iff, EnvVar.parse_eq_ok_iff,
    EnvVar.parse_eq_error_iff]

theorem checkName_givenName?_eq_ok_iff :
    checkName (givenName? flags) = .ok () ↔ NameFits flags := by
  have gives := givesName_givenName? flags
  generalize givenName? flags = name? at gives ⊢
  cases gives with
  | absent absent =>
      simp [checkName, NameFits, absent]
  | empty last =>
      simp [checkName, NameFits, last]
  | named last present =>
      simp [checkName, NameFits, last, present]

theorem checkName_givenName?_eq_error_iff :
    checkName (givenName? flags) = .error error ↔
      ∃ name, flags.lastValue? nameFlags = some name ∧ name ≠ [] ∧
        Name.check operation name ≠ .ok () ∧ error = ⟨operation, .invalidName name⟩ := by
  have gives := givesName_givenName? flags
  generalize givenName? flags = name? at gives ⊢
  cases gives with
  | absent absent =>
      simp [checkName, absent]
  | empty last =>
      simp [checkName, last]
  | named last present =>
      simp [checkName, last, present, Name.check_eq_error_iff]

/-! ## Commands -/

theorem build_eq_ok_iff_describes :
    build default flags = .ok command ↔ Describes default flags command := by
  rw [build_eq_ok_iff, givenPorts_eq_ok_iff, givenEnvVars_eq_ok_iff, givenName?_eq_iff,
    checkName_eq_ok_iff, givenImage?_eq_some_iff]
  constructor
  · rintro ⟨ports, ⟨envVars, assignable⟩, name, accepted, image, daemon⟩
    exact ⟨ports, envVars, assignable, name, accepted, image, daemon.symm⟩
  · intro describes
    exact ⟨describes.ports, ⟨describes.envVars, describes.assignable⟩, describes.name,
      describes.accepted, describes.image, describes.daemon.symm⟩

theorem exists_build_iff :
    (∃ command, build default flags = .ok command) ↔
      PortsFit default flags ∧ EnvVarsFit flags ∧ NameFits flags ∧
        ∃ image, GivesImage flags image := by
  constructor
  · rintro ⟨command, built⟩
    obtain ⟨ports, envVars, name, accepted, image, _⟩ := build_eq_ok_iff.mp built
    rw [← name] at accepted
    exact ⟨exists_givenPorts_iff.mp ⟨_, ports⟩, exists_givenEnvVars_iff.mp ⟨_, envVars⟩,
      checkName_givenName?_eq_ok_iff.mp accepted, _, givenImage?_eq_some_iff.mp image⟩
  · rintro ⟨portsFit, envVarsFit, nameFits, image, gives⟩
    obtain ⟨ports, portsGiven⟩ := exists_givenPorts_iff.mpr portsFit
    obtain ⟨envVars, envVarsGiven⟩ := exists_givenEnvVars_iff.mpr envVarsFit
    refine ⟨⟨givenName? flags, flags.isEnabled detachFlags, ports, envVars, image⟩, ?_⟩
    exact build_eq_ok_iff.mpr ⟨portsGiven, envVarsGiven, rfl,
      checkName_givenName?_eq_ok_iff.mpr nameFits, givenImage?_eq_some_iff.mpr gives, rfl⟩

/-- Building fails at the first of its checks that fails. -/
theorem build_eq_error_iff :
    build default flags = .error error ↔
      givenPorts default flags = .error error ∨
        PortsFit default flags ∧
          (givenEnvVars flags = .error error ∨
            EnvVarsFit flags ∧
              (checkName (givenName? flags) = .error error ∨
                NameFits flags ∧ (∀ image, ¬GivesImage flags image) ∧
                  error = ⟨operation, .missingImage⟩)) := by
  constructor
  · intro refused
    rw [build, bind_eq_error_iff] at refused
    rcases refused with portFault | ⟨ports, portsGiven, refused⟩
    · exact .inl portFault
    refine .inr ⟨exists_givenPorts_iff.mp ⟨ports, portsGiven⟩, ?_⟩
    rw [bind_eq_error_iff] at refused
    rcases refused with envVarFault | ⟨envVars, envVarsGiven, refused⟩
    · exact .inl envVarFault
    refine .inr ⟨exists_givenEnvVars_iff.mp ⟨envVars, envVarsGiven⟩, ?_⟩
    rw [bind_eq_error_iff] at refused
    rcases refused with nameFault | ⟨_, accepted, refused⟩
    · exact .inl nameFault
    refine .inr ⟨checkName_givenName?_eq_ok_iff.mp accepted, ?_⟩
    cases given : givenImage? flags with
    | none =>
        rw [given] at refused
        cases refused
        exact ⟨givenImage?_eq_none_iff.mp given, rfl⟩
    | some image =>
        rw [given] at refused
        cases refused
  · intro fault
    rw [build, bind_eq_error_iff]
    rcases fault with portFault | ⟨portsFit, fault⟩
    · exact .inl portFault
    obtain ⟨ports, portsGiven⟩ := exists_givenPorts_iff.mpr portsFit
    refine .inr ⟨ports, portsGiven, ?_⟩
    rw [bind_eq_error_iff]
    rcases fault with envVarFault | ⟨envVarsFit, fault⟩
    · exact .inl envVarFault
    obtain ⟨envVars, envVarsGiven⟩ := exists_givenEnvVars_iff.mpr envVarsFit
    refine .inr ⟨envVars, envVarsGiven, ?_⟩
    rw [bind_eq_error_iff]
    rcases fault with nameFault | ⟨nameFits, missing, rfl⟩
    · exact .inl nameFault
    refine .inr ⟨(), checkName_givenName?_eq_ok_iff.mpr nameFits, ?_⟩
    rw [givenImage?_eq_none_iff.mpr missing]

theorem build_eq_error_iff_reports :
    build default flags = .error error ↔ Reports default flags error := by
  rw [build_eq_error_iff, givenPorts_eq_error_iff, givenEnvVars_eq_error_iff,
    checkName_givenName?_eq_error_iff]
  constructor
  · rintro (⟨before, text, behind, once, fit, fails⟩ | ⟨portsFit, rest⟩)
    · exact .port once fit fails
    rcases rest with ⟨before, text, behind, once, fit, fault, fails, rfl⟩ | ⟨envVarsFit, rest⟩
    · exact .envVar portsFit once fit fails
    rcases rest with ⟨name, last, present, refused, rfl⟩ | ⟨nameFits, missing, rfl⟩
    · exact .name portsFit envVarsFit last present refused
    · exact .image portsFit envVarsFit nameFits missing
  · intro reports
    cases reports with
    | port once fit fails =>
        exact .inl ⟨_, _, _, once, fit, fails⟩
    | envVar portsFit once fit fails =>
        exact .inr ⟨portsFit, .inl ⟨_, _, _, once, fit, _, fails, rfl⟩⟩
    | name portsFit envVarsFit last present refused =>
        exact .inr ⟨portsFit, .inr ⟨envVarsFit, .inl ⟨_, last, present, refused, rfl⟩⟩⟩
    | image portsFit envVarsFit nameFits missing =>
        exact .inr ⟨portsFit, .inr ⟨envVarsFit, .inr ⟨nameFits, missing, rfl⟩⟩⟩

/-- Flags give a command exactly if all that they give is fit, and then the command has it.
Otherwise the first fault is reported. -/
theorem build_gives_or_reports (default : Protocol) (flags : Flags) :
    ((∃ command, build default flags = .ok command) ↔
      PortsFit default flags ∧ EnvVarsFit flags ∧ NameFits flags ∧
        ∃ image, GivesImage flags image) ∧
    (∀ command, build default flags = .ok command ↔ Describes default flags command) ∧
    ∀ error, build default flags = .error error ↔ Reports default flags error :=
  ⟨exists_build_iff, fun _ => build_eq_ok_iff_describes, fun _ => build_eq_error_iff_reports⟩

/-- Of four faults, the one of the ports is reported. -/
example :
    build .tcp
        (Flags.ofWords (["-e", "=x", "--name", "a/b", "-p", "1:1", "-p", "80"].map String.toList)) =
      .error ⟨PortMapping.operation, .invalidPort .host []⟩ := by
  decide

end RunManifest.ContainerCommand
