import RunManifest.Files.Operations

/-!
Hosts: what the program can see of the system on which it runs.
-/

namespace RunManifest

/-- The variables of the environment that matter, as far as they are set. -/
structure Environment where
  home? : Option Text := none
  configHome? : Option Text := none
  dataHome? : Option Text := none
  settingsPath? : Option Text := none
  outputDirectory? : Option Text := none
deriving DecidableEq, Repr

/-- A program that the system can start: what it writes, how it exits, and whether it adds its
arguments to what it writes. One that is not executable cannot be started. -/
structure Program where
  standardOutput : Bytes := []
  standardError : Bytes := []
  exitCode : Nat := 0
  echoesArguments : Bool := false
  isExecutable : Bool := true
deriving DecidableEq, Repr

/-- A system: its files, the directory in which the program runs, the environment, the home
directory of the account, if it has one, and the programs that can be found by name. -/
structure Host where
  files : FileTree
  base : Base
  environment : Environment
  accountHome : Option Path
  programs : List (Text × Program)

namespace Host

/-- The path of the directory in which the program runs, unless that has been removed. -/
def currentDirectory (host : Host) : Except SystemError Path :=
  if host.base.isRemoved then .error .notFound else .ok host.base.location.path

/-- The home directory: the one of the environment, unless it is empty, or that of the account. -/
def home? (host : Host) : Option Path :=
  match host.environment.home? with
  | none => host.accountHome
  | some [] => host.accountHome
  | some home => some (Path.ofText home)

/-- A directory that the environment names by an absolute path, or else one under the home
directory, if there is one. -/
def directoryOr? (host : Host) (named? : Option Text) (underHome : Text) : Option Path :=
  match named?.filter fun named => Path.isAbsolute (Path.ofText named) with
  | some named => some (Path.ofText named)
  | none => host.home?.map fun home => Path.join home (Path.ofText underHome)

def configDirectory? (host : Host) : Option Path :=
  host.directoryOr? host.environment.configHome? ".config".toList

def dataDirectory? (host : Host) : Option Path :=
  host.directoryOr? host.environment.dataHome? ".local/share".toList

/-! ## Files and programs -/

/-- The host after a change of its files. A directory that is removed stays so for the program that
runs in it, whatever is made in its place. -/
def withFiles (host : Host) (files : FileTree) : Host :=
  { host with files, base := host.base.settle files }

def exists? (host : Host) (path : Path) : Bool :=
  host.files.exists? host.base path

def absolute (host : Host) (path : Path) : Except SystemError Path :=
  if path = [] then
    .error .emptyPath
  else if Path.isAbsolute path then
    .ok (Path.absoluteFrom [] path)
  else
    host.currentDirectory.map fun directory => Path.absoluteFrom directory path

structure Ending where
  standardOutput : Bytes
  standardError : Bytes
  exitCode : Nat
deriving DecidableEq, Repr

def run (host : Host) (name : Text) (arguments : List Text) : Except SystemError Ending :=
  match host.programs.lookup name with
  | none => .error .notFound
  | some program =>
      if program.isExecutable then
        let echo :=
          if program.echoesArguments then
            Utf8.encode ([' '].intercalate arguments ++ ['\n'])
          else
            []
        .ok
          { standardOutput := program.standardOutput ++ echo
            standardError := program.standardError
            exitCode := program.exitCode }
      else
        .error .permissionDenied

end Host

end RunManifest
