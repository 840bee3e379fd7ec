import RunManifest.Json
import RunManifest.Output
import RunManifest.Program.Arguments
import RunManifest.Settings.File
import RunManifest.Source

/-!
The program: from its arguments to what it writes and to the files it leaves.

`plan` does everything that comes before the first change of a file: settings, source, command
line, name, paths and texts. A dry run shows the plan, and a real run writes it.
-/

namespace RunManifest

/-- Why a request cannot be met. -/
inductive Failure
  | settings (error : SettingsError)
  | noSource (error : SourceError)
  | source (name : Text) (error : SourceError)
  | validation (error : ValidationError)
  | outputRoot (root : Path) (error : SystemError)
  | outputNotText (paths : OutputPaths)
  | write (failure : WriteFailure)
deriving DecidableEq, Repr

namespace Failure

def chain : Failure → List Text
  | settings error => error.message :: error.reason?.toList
  | noSource error => error.message :: error.reason?.toList
  | source name error =>
      (name ++ " からコマンドを読み込めませんでした".toList) :: error.message :: error.reason?.toList
  | validation error => [error.message]
  | outputRoot root error =>
      ["出力先を解決できません: ".toList ++ Path.shown root, error.message]
  | outputNotText paths => [paths.notTextMessage]
  | write failure => [failure.message, failure.cause.message]

def report (failure : Failure) : Text :=
  match failure.chain with
  | [] => []
  | happened :: reasons =>
      "Error: ".toList ++ happened ++ ['\n'] ++
        reasons.flatMap fun reason => "  原因: ".toList ++ reason ++ ['\n']

end Failure

/-- What the surroundings of a run provide: the system, the platform of its clipboard, the standard
input, and the first number of the supply from which names of containers are made up. -/
structure Surroundings where
  host : Host
  platform : Platform
  input : Bytes
  freshNumber : Nat

namespace Surroundings

/-- The text of a command line from the source that the options choose, with the settings under
which it is read. The settings are loaded first. -/
def readSource (around : Surroundings) (options : Arguments.SourceOptions) :
    Except Failure (Settings × Text) := do
  let source ←
    (Source.choose around.platform options.text? options.usesInput).mapError Failure.noSource
  let settings ← (Settings.load around.host).mapError Failure.settings
  let text ← (source.readText around.host around.input).mapError (Failure.source source.name)
  return (settings, text)

def readCommand (around : Surroundings) (options : Arguments.SourceOptions) :
    Except Failure (Settings × ContainerCommand) := do
  let (settings, text) ← around.readSource options
  let command ←
    (ContainerCommand.parse settings.defaultProtocol text).mapError Failure.validation
  return (settings, command)

def outputPaths
    (around : Surroundings) (settings : Settings) (given? : Option Path) (name : Text) :
    Except Failure OutputPaths := do
  let root := Settings.outputRoot around.host given? settings
  let absolute ← (around.host.absolute root).mapError (Failure.outputRoot root)
  (OutputPaths.under absolute name).mapError Failure.validation

def artifacts
    (paths : OutputPaths) (command : ContainerCommand) (name : Text) (schema : SchemaVersions) :
    Except Failure Artifacts :=
  match paths.reference? with
  | none => .error (.outputNotText paths)
  | some reference =>
      (Artifacts.render command name reference schema).mapError Failure.validation

def planning
    (around : Surroundings) (source : Arguments.SourceOptions) (outputDirectory? : Option Text) :
    StateT Nat (Except Failure) (OutputPaths × Artifacts) := do
  let (settings, command) ← around.readCommand source
  let name ← command.resolveName Name.draw
  let paths ← around.outputPaths settings (outputDirectory?.map Path.ofText) name
  let files ← artifacts paths command name settings.schema
  return (paths, files)

def plan
    (around : Surroundings) (source : Arguments.SourceOptions) (outputDirectory? : Option Text) :
    Except Failure (OutputPaths × Artifacts) :=
  (around.planning source outputDirectory?).run' around.freshNumber

end Surroundings

def versionText : Text := "kubify 0.3.0\n".toList

def ContainerCommand.toJson (command : ContainerCommand) : Json.Value :=
  let portJson (mapping : PortMapping) : Json.Value :=
    .object
      [ ("containerPort".toList, .number mapping.containerPort.toNat),
        ("hostPort".toList, .number mapping.hostPort.toNat),
        ("protocol".toList, .text mapping.protocol.name) ]
  let variableJson (envVar : EnvVar) : Json.Value :=
    .object [("key".toList, .text envVar.key), ("value".toList, .text envVar.value)]
  .object
    [ ("name".toList, (command.name?.map .text).getD .null),
      ("daemon".toList, .boolean command.daemon),
      ("ports".toList, .list (command.ports.map portJson)),
      ("envVars".toList, .list (command.envVars.map variableJson)),
      ("image".toList, .text command.image) ]

def Artifacts.shown (artifacts : Artifacts) : Text :=
  artifacts.manifest ++ Manifest.separator ++ artifacts.pipeline

def OutputPaths.summary (paths : OutputPaths) : Text :=
  "✓ Skaffold 設定と Kubernetes マニフェストを生成しました\n".toList ++
    "  • ".toList ++ Path.shown paths.manifest ++ "\n  • ".toList ++ Path.shown paths.pipeline ++
    "\n\n次のコマンドで起動できます:\n  cd ".toList ++ Path.shown paths.directory ++
    "\n  skaffold run --port-forward --tail\n".toList

def usageText : Text :=
  ("usage: kubify [-v] generate [-c TEXT | --stdin] [-o DIR] [--dry-run]\n" ++
    "       kubify [-v] inspect [-c TEXT | --stdin]\n" ++
    "       kubify [-v] version\n").toList

/-! ## Runs -/

/-- How a run has ended: its exit code, what it has written, the warnings, and the files. -/
structure Outcome where
  exitCode : Nat
  standardOutput : Text
  standardError : Text
  warnings : List Text
  files : FileTree

namespace Surroundings

/-- A run that has met its request without changing a file. -/
def succeed (around : Surroundings) (output : Text) : Outcome where
  exitCode := 0
  standardOutput := output
  standardError := []
  warnings := []
  files := around.host.files

/-- A run that has failed without changing a file. -/
def fail (around : Surroundings) (failure : Failure) : Outcome where
  exitCode := 1
  standardOutput := []
  standardError := failure.report
  warnings := []
  files := around.host.files

def inspect (around : Surroundings) (source : Arguments.SourceOptions) : Outcome :=
  match around.readCommand source with
  | .error failure => around.fail failure
  | .ok (_, command) => around.succeed (command.toJson.render ++ ['\n'])

def writeFiles (around : Surroundings) (paths : OutputPaths) (artifacts : Artifacts) : Outcome :=
  let report := paths.write around.host.files around.host.base artifacts
  match report.outcome with
  | .ok () =>
      { exitCode := 0
        standardOutput := paths.summary
        standardError := []
        warnings := report.warnings
        files := report.files }
  | .error failure =>
      { exitCode := 1
        standardOutput := []
        standardError := (Failure.write failure).report
        warnings := report.warnings
        files := report.files }

def generate
    (around : Surroundings) (source : Arguments.SourceOptions)
    (outputDirectory? : Option Text) (isDryRun : Bool) : Outcome :=
  match around.plan source outputDirectory? with
  | .error failure => around.fail failure
  | .ok (paths, artifacts) =>
      if isDryRun then around.succeed artifacts.shown
      else around.writeFiles paths artifacts

def commandWarnings (around : Surroundings) (source : Arguments.SourceOptions) : List Text :=
  match around.readSource source with
  | .error _ => []
  | .ok (settings, text) => ContainerCommand.parseWarnings settings.defaultProtocol text

def warned
    (around : Surroundings) (source : Arguments.SourceOptions) (outcome : Outcome) : Outcome :=
  { outcome with warnings := around.commandWarnings source ++ outcome.warnings }

def answer (around : Surroundings) : Arguments.Request → Outcome
  | .generate source outputDirectory? isDryRun =>
      around.warned source (around.generate source outputDirectory? isDryRun)
  | .inspect source => around.warned source (around.inspect source)
  | .version => around.succeed versionText

def run (around : Surroundings) (arguments : List Text) : Outcome :=
  match Arguments.parse arguments with
  | .ok request => around.answer request
  | .error .help => around.succeed usageText
  | .error .usage =>
      { exitCode := 2
        standardOutput := []
        standardError := usageText
        warnings := []
        files := around.host.files }

end Surroundings

end RunManifest
