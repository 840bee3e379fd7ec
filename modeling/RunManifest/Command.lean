import RunManifest.CommandLine.Flags
import RunManifest.Files.Path
import RunManifest.ValidationError

/-!
Container commands: what a `run` command line asks for. `ContainerCommand.build` reads one from
flags and `ContainerCommand.parse` from the text of the command line.

Its parts are port mappings, written `containerPort:hostPort` or `containerPort:hostPort/protocol`,
environment variables, written `KEY=VALUE`, and the name of the container. A name becomes the name
of a directory, so it has to be one component of a path; a cluster asks for more, which only leads
to a warning.
-/

namespace RunManifest

inductive Protocol
  | tcp
  | udp
deriving DecidableEq, Repr

namespace Protocol

def name : Protocol → Text
  | tcp => "TCP".toList
  | udp => "UDP".toList

/-- The protocol with a given name, in any mixture of cases. No letter beyond `A` to `Z` has one
of the letters of these names as its upper case, so `Char.toUpper` decides. -/
def ofName? (text : Text) : Option Protocol :=
  let upper := text.map Char.toUpper
  if upper = tcp.name then some tcp
  else if upper = udp.name then some udp
  else none

end Protocol

/-- A port of the container and the port of the host that leads to it. -/
structure PortMapping where
  containerPort : UInt16
  hostPort : UInt16
  protocol : Protocol
deriving DecidableEq, Repr

namespace PortMapping

def operation : Text := "parse_port_mapping".toList

/-- The number of a port: decimal digits, after a `+` if one stands there, with a value from 1 to
65535. -/
def portNumber? (text : Text) : Option UInt16 :=
  let digits :=
    match text with
    | '+' :: digits => digits
    | digits => digits
  match Text.numeral? 10 digits with
  | none => none
  | some number =>
      if 1 ≤ number ∧ number ≤ 65535 then some (UInt16.ofNat number) else none

def readPort (side : PortSide) (text : Text) : Except ValidationError UInt16 :=
  match portNumber? text with
  | some port => .ok port
  | none => .error ⟨operation, .invalidPort side text⟩

/-- The part of a mapping before its first `/`, and the protocol after it or else the default. -/
def splitProtocol (default : Protocol) (text : Text) : Except ValidationError (Text × Protocol) :=
  match Text.splitOnce '/' text with
  | none => .ok (text, default)
  | some (ports, protocolName) =>
      match Protocol.ofName? protocolName with
      | some protocol => .ok (ports, protocol)
      | none => .error ⟨operation, .unsupportedProtocol protocolName⟩

/-- Reads a port mapping. The protocol is judged first, then the container port, then the host
port, which is the empty text when there is no `:`. -/
def parse (default : Protocol) (text : Text) : Except ValidationError PortMapping :=
  match text with
  | [] => .error ⟨operation, .emptyText "portMapText".toList⟩
  | text => do
      let (ports, protocol) ← splitProtocol default text
      let (container, host) := (Text.splitOnce ':' ports).getD (ports, [])
      let containerPort ← readPort .container container
      let hostPort ← readPort .host host
      return { containerPort, hostPort, protocol }

end PortMapping

structure EnvVar where
  key : Text
  value : Text
deriving DecidableEq, Repr

namespace EnvVar

def operation : Text := "parse_env_var".toList

/-- Reads an environment variable. The first `=` ends the key, so a value may hold more of them. -/
def parse (text : Text) : Except ValidationError EnvVar :=
  match text with
  | [] => .error ⟨operation, .emptyText "envVarText".toList⟩
  | text =>
      match Text.splitOnce '=' text with
      | none => .error ⟨operation, .assignmentWithoutMark text⟩
      | some ([], _) => .error ⟨operation, .assignmentWithoutKey text⟩
      | some (key, value) => .ok { key, value }

def assignment (envVar : EnvVar) : Text :=
  envVar.key ++ '=' :: envVar.value

end EnvVar

namespace Name

/-- Can a text be the name of a directory? As a path it must be one step, to an entry with a name,
and it must not hold a separator of any system. -/
def isComponent (name : Text) : Bool :=
  isNormalStep (Path.ofText name).components && '/' ∉ name && '\\' ∉ name
where
  isNormalStep : List Path.Component → Bool
    | [.normal _] => true
    | _ => false

def check (operation name : Text) : Except ValidationError Unit :=
  if isComponent name then .ok () else .error ⟨operation, .invalidName name⟩

/-- Is a text a DNS-1035 label: at most 63 of `a` to `z`, `0` to `9` and `-`, with a letter first
and no `-` last? -/
def isDnsLabel (name : Text) : Bool :=
  name.length ≤ 63 && (name.head?.any isSmallLetter) && (name.getLast?.any (· ≠ '-')) &&
    name.all fun character =>
      isSmallLetter character || character.isDigit || character == '-'
where
  isSmallLetter (character : Char) : Bool :=
    'a' ≤ character && character ≤ 'z'

/-- The last digits of a number in base sixteen, as many as `count` says. -/
def hexDigits : (count number : Nat) → Text
  | 0, _ => []
  | count + 1, number => hexDigits count (number / 16) ++ [Nat.digitChar (number % 16)]

/-- The name that is made up from a number. Its letter in front makes it a label. -/
def numbered (number : Nat) : Text :=
  "app-".toList ++ hexDigits 32 number

def draw {m : Type → Type} [Monad m] : StateT Nat m Text := fun number =>
  pure (numbered number, number + 1)

end Name

open CommandLine

structure ContainerCommand where
  name? : Option Text
  daemon : Bool
  ports : List PortMapping
  envVars : List EnvVar
  image : Text
deriving DecidableEq, Repr

namespace ContainerCommand

/-- The name of the container: its own, or `fallback` if the command line gives none. -/
def resolvedName (command : ContainerCommand) (fallback : Text) : Text :=
  command.name?.getD fallback

/-- The name of the container: its own, or one that is generated if the command line gives none. -/
def resolveName {m : Type → Type} [Monad m] (command : ContainerCommand) (generate : m Text) :
    m Text :=
  match command.name? with
  | some name => pure name
  | none => generate

def operation : Text := "build_command".toList

def portFlags : List Text := ["p", "port", "publish"].map String.toList

def envFlags : List Text := ["e", "env"].map String.toList

def nameFlags : List Text := ["name"].map String.toList

def detachFlags : List Text := ["d", "detach"].map String.toList

/-! ## Reading -/

/-- The name that the flags give. An empty name counts as none. -/
def givenName? (flags : Flags) : Option Text :=
  (flags.lastValue? nameFlags).filter fun name => name ≠ []

/-- The image that the flags give: the last positional word without line breaks at its end. -/
def givenImage? (flags : Flags) : Option Text :=
  match flags.positionals.getLast? with
  | none => none
  | some word =>
      match Text.dropEndWhile (fun character => character == '\n' || character == '\r') word with
      | [] => none
      | image => some image

/-- The port mappings that the flags give. A mapping that is written twice counts once. -/
def givenPorts (defaultProtocol : Protocol) (flags : Flags) :
    Except ValidationError (List PortMapping) :=
  (flags.valuesOf portFlags).eraseDups.mapM (PortMapping.parse defaultProtocol)

/-- The environment variables that the flags give. One that is written twice counts once. -/
def givenEnvVars (flags : Flags) : Except ValidationError (List EnvVar) :=
  (flags.valuesOf envFlags).eraseDups.mapM EnvVar.parse

/-- Refuses a name that cannot be used; no name is fine. -/
def checkName (name? : Option Text) : Except ValidationError Unit :=
  match name? with
  | none => .ok ()
  | some name => Name.check operation name

/-- The command that flags describe. Faults are reported in the order ports, environment, name,
image. -/
def build (defaultProtocol : Protocol) (flags : Flags) :
    Except ValidationError ContainerCommand := do
  let ports ← givenPorts defaultProtocol flags
  let envVars ← givenEnvVars flags
  let name? := givenName? flags
  checkName name?
  match givenImage? flags with
  | none => .error ⟨operation, .missingImage⟩
  | some image =>
      .ok { name?, daemon := flags.isEnabled detachFlags, ports, envVars, image }

def parse (defaultProtocol : Protocol) (text : Text) :
    Except ValidationError ContainerCommand :=
  if Text.trim text = [] then
    .error ⟨operation, .emptyText "cmdText".toList⟩
  else
    build defaultProtocol (Flags.ofCommandLine text)

def nameWarning : Text :=
  "Container name is not a valid DNS-1035 label; the cluster may reject it".toList

/-- The warnings that building a command gives. The name is looked at once ports and environment
are found good, and only if it can be used at all. -/
def buildWarnings (defaultProtocol : Protocol) (flags : Flags) : List Text :=
  match givenPorts defaultProtocol flags, givenEnvVars flags, givenName? flags with
  | .ok _, .ok _, some name =>
      if Name.isComponent name && !Name.isDnsLabel name then [nameWarning] else []
  | _, _, _ => []

def parseWarnings (defaultProtocol : Protocol) (text : Text) : List Text :=
  if Text.trim text = [] then []
  else buildWarnings defaultProtocol (Flags.ofCommandLine text)

end ContainerCommand

end RunManifest
