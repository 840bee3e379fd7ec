import RunManifest.Program.Run

/-!
The program on a real system: it looks at the files that matter, lets `Surroundings.run` decide, and
carries out what was decided.

A run looks at the settings files and at the places where it would write, each with the directories
on the way to it. It starts no other program, so the platform has no clipboard that can be read, and
it does not look up the account, so that only the environment names a home directory.
-/

namespace RunManifest.Main

def shown (path : Path) : String :=
  String.ofList (Path.shown path)

/-- A real file. What the system would say to a program that opens it is not asked for. -/
def fileAt (path : Path) : IO File := do
  let place := (← IO.appPath) / shown path
  let content? ← try some <$> IO.FS.readBinFile place catch _ => pure none
  let isOpen ← try IO.FS.withFile place .append fun _ => pure true catch _ => pure false
  return match content? with
    | none => { content := [], access := .closed .permissionDenied }
    | some content =>
        { content := content.toList
          access := if isOpen then .full else .readOnly .permissionDenied }

/-- A tree with what really stands at an absolute path, if its directory is in the tree. An absolute
path is the same wherever it is looked at from. -/
def observe (files : FileTree) (path : Path) : IO FileTree := do
  let place := (← IO.appPath) / shown path
  if ← place.isDir then
    return (files.makeDirectory .root path).toOption.getD files
  else if ← place.pathExists then
    return (files.storeFile .root path (← fileAt path)).toOption.getD files
  else
    return files

def observeWay (files : FileTree) (path : Path) : IO FileTree :=
  (path :: Path.parents path).reverse.foldlM observe files

def readEnvironment : IO Environment := do
  let valueOf (name : String) : IO (Option Text) :=
    return (← IO.getEnv name).map String.toList
  return {
    home? := ← valueOf "HOME"
    configHome? := ← valueOf "XDG_CONFIG_HOME"
    dataHome? := ← valueOf "XDG_DATA_HOME"
    settingsPath? := ← valueOf "KUBIFY_CONFIG_PATH"
    outputDirectory? := ← valueOf "KUBIFY_OUTPUT_DIR" }

def currentBase : IO Base := do
  try
    let current := Path.ofText (← IO.currentDir).toString.toList
    return { location := (Path.names current).reverse }
  catch _ =>
    return .lost

partial def readRest (stream : IO.FS.Stream) (before : ByteArray) : IO ByteArray := do
  let chunk ← stream.read 65536
  if chunk.isEmpty then return before else readRest stream (before ++ chunk)

def drawNumber : IO Nat := do
  let bytes ← IO.getRandomBytes 16
  return bytes.toList.foldl (fun number byte => 256 * number + byte.toNat) 0

def sourceOf? : Arguments.Request → Option Arguments.SourceOptions
  | .generate source _ _ => some source
  | .inspect source => some source
  | .version => none

/-- Where a request would write files, if it comes that far. -/
def outputPaths? (around : Surroundings) : Arguments.Request → Option OutputPaths
  | .generate source outputDirectory? false =>
      (around.plan source outputDirectory?).toOption.map Prod.fst
  | _ => none

def surroundingsOf (request : Arguments.Request) : IO Surroundings := do
  let base ← currentBase
  let environment ← readEnvironment
  let usesInput := (sourceOf? request).any fun source => source.usesInput
  let input ← if usesInput then readRest (← IO.getStdin) .empty else pure .empty
  let current := base.location.path
  let host : Host :=
    { files := ← if base.isRemoved then pure .empty else observeWay .empty current
      base
      environment
      accountHome := none
      programs := [] }
  let candidates := (Settings.candidates host current).map (Path.join current)
  let files ← candidates.foldlM observeWay host.files
  let around : Surroundings :=
    { host := { host with files }
      platform := .other "none".toList
      input := input.toList
      freshNumber := ← drawNumber }
  match outputPaths? around request with
  | none => return around
  | some paths =>
      let files ← [paths.directory, paths.manifest, paths.pipeline].foldlM observeWay files
      return { around with host := { host with files } }

/-! ## Acting -/

def commit (before after : FileTree) : IO Unit := do
  let root ← IO.appPath
  let lost := before.toList.filter fun entry => after.get? entry.1 = none
  for (location, entry) in lost.mergeSort fun one other => other.1.length ≤ one.1.length do
    let place := root / shown location.path
    match entry with
    | .file _ => IO.FS.removeFile place
    | .directory => IO.FS.removeDir place
  let changed := after.toList.filter fun entry => before.get? entry.1 ≠ some entry.2
  for (location, entry) in changed.mergeSort fun one other => one.1.length ≤ other.1.length do
    let place := root / shown location.path
    match entry with
    | .file file => IO.FS.writeBinFile place ⟨file.content.toArray⟩
    | .directory => IO.FS.createDir place

def run (arguments : List Text) : IO UInt32 := do
  let request := (Arguments.parse arguments).toOption.getD .version
  let around ← surroundingsOf request
  let outcome := around.run arguments
  commit around.host.files outcome.files
  let errors ← IO.getStderr
  for warning in outcome.warnings do
    errors.putStr ("warning: " ++ String.ofList warning ++ "\n")
  errors.putStr (String.ofList outcome.standardError)
  (← IO.getStdout).putStr (String.ofList outcome.standardOutput)
  return outcome.exitCode.toUInt32

end RunManifest.Main

/-- Runs the program. A refusal of the system that no rule foresees ends it with code 1. -/
def main (arguments : List String) : IO UInt32 := do
  try
    RunManifest.Main.run (arguments.map String.toList)
  catch error =>
    (← IO.getStderr).putStr ("Error: " ++ toString error ++ "\n")
    return 1
