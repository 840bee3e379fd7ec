import RunManifest.Files.Operations
import RunManifest.Manifest

/-!
Writing the files for a command: a directory named after the container, with the manifest and the
pipeline in it. If a file cannot be written, the manifest and a directory that was new are removed.
-/

namespace RunManifest

/-- Where the files for a command are written. -/
structure OutputPaths where
  directory : Path
  manifest : Path
  pipeline : Path
deriving DecidableEq, Repr

namespace OutputPaths

def operation : Text := "artifact_paths".toList

def manifestFile : Text := "service.yml".toList

def pipelineFile : Text := "skaffold.yml".toList

def under (root : Path) (name : Text) : Except ValidationError OutputPaths :=
  (Name.check operation name).map fun _ =>
    let directory := Path.join root (Path.ofText name)
    { directory
      manifest := Path.join directory (Path.ofText manifestFile)
      pipeline := Path.join directory (Path.ofText pipelineFile) }

/-- The manifest path as a pipeline refers to it, which has to be a text. -/
def reference? (paths : OutputPaths) : Option Text :=
  Path.toText? paths.manifest

def notTextMessage (paths : OutputPaths) : Text :=
  "出力先パスがUTF-8ではありません: ".toList ++ Path.shown paths.manifest

end OutputPaths

/-! ## Writing -/

/-- Why files could not be written. -/
inductive WriteFailure
  | directory (path : Path) (cause : SystemError)
  | file (path : Path) (cause : SystemError)
deriving DecidableEq, Repr

namespace WriteFailure

def message : WriteFailure → Text
  | directory path _ => "ディレクトリを作成できません: ".toList ++ Path.shown path
  | file path _ => "書き込みに失敗しました: ".toList ++ Path.shown path

def cause : WriteFailure → SystemError
  | directory _ cause => cause
  | file _ cause => cause

end WriteFailure

/-- How an attempt to write ended: the files there are then, the outcome, and what could not be
cleaned up. -/
structure WriteReport where
  files : FileTree
  outcome : Except WriteFailure Unit
  warnings : List Text

namespace OutputPaths

def manifestStays : Text := "Failed to remove partial manifest".toList

def directoryStays : Text := "Failed to remove output directory".toList

/-- Removes the manifest file, if there is one. -/
def discardManifest (files : FileTree) (base : Base) (paths : OutputPaths) :
    FileTree × List Text :=
  if files.isFile base paths.manifest then
    match files.removeFile base paths.manifest with
    | .ok cleaned => (cleaned, [])
    | .error _ => (files, [manifestStays])
  else
    (files, [])

/-- Removes the directory, if it was new. -/
def discardDirectory (files : FileTree) (base : Base) (paths : OutputPaths) (isNew : Bool) :
    FileTree × List Text :=
  if isNew then
    match files.removeDirectory base paths.directory with
    | .ok cleaned => (cleaned, [])
    | .error _ => (files, [directoryStays])
  else
    (files, [])

def discard
    (files : FileTree) (base : Base) (paths : OutputPaths) (isNew : Bool)
    (failure : WriteFailure) : WriteReport :=
  let (withoutManifest, manifestWarnings) := discardManifest files base paths
  let (cleaned, directoryWarnings) := discardDirectory withoutManifest base paths isNew
  { files := cleaned
    outcome := .error failure
    warnings := manifestWarnings ++ directoryWarnings }

/-- Writes the files: first the directory, then the manifest, then the pipeline. -/
def write (files : FileTree) (base : Base) (paths : OutputPaths) (artifacts : Artifacts) :
    WriteReport :=
  let isNew := !files.exists? base paths.directory
  match files.makeDirectories base paths.directory with
  | (prepared, .error cause) => ⟨prepared, .error (.directory paths.directory cause), []⟩
  | (prepared, .ok ()) =>
      match prepared.writeFile base paths.manifest (Utf8.encode artifacts.manifest) with
      | .error cause => discard prepared base paths isNew (.file paths.manifest cause)
      | .ok withManifest =>
          match withManifest.writeFile base paths.pipeline (Utf8.encode artifacts.pipeline) with
          | .error cause => discard withManifest base paths isNew (.file paths.pipeline cause)
          | .ok complete => ⟨complete, .ok (), []⟩

end OutputPaths

end RunManifest
