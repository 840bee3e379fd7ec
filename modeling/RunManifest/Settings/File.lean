import RunManifest.Host
import RunManifest.Settings

/-!
Settings files: where one is looked for, and what it settles.

The first candidate that exists wins, whatever it holds. If it cannot be read, that is an error,
and no other candidate is asked.
-/

namespace RunManifest

/-- Why there are no settings. -/
inductive SettingsError
  | directoryMissing
  | unreadable (path : Path) (reason : Text)
  | malformed (path : Path) (fault : SettingsFault)
  | system (error : SystemError)
deriving DecidableEq, Repr

namespace SettingsError

def reason? : SettingsError → Option Text
  | directoryMissing => none
  | unreadable _ reason => some reason
  | malformed _ fault => some fault.message
  | system error => some error.message

private def withReason (remark : String) (path : Path) (reason : Text) : Text :=
  remark.toList ++ ": ".toList ++ Path.shown path ++ "\n理由: ".toList ++ reason

def message : SettingsError → Text
  | directoryMissing => "設定ディレクトリが見つかりません".toList
  | unreadable path reason => withReason "設定ファイルを読み込めません" path reason
  | malformed path fault => withReason "設定ファイルの形式が不正です" path fault.message
  | system error => "IO エラー: ".toList ++ error.message

end SettingsError

namespace Settings

def localFiles : List Text :=
  ["kubify.yaml", ".kubify.yaml"].map String.toList

/-- The directory for settings of this program, which is in that for settings of all programs. Whether
there is one is told by `findDirectory`. -/
def directory (host : Host) : Path :=
  Path.join (host.configDirectory?.getD []) (Path.ofText "kubify".toList)

/-- The directory for settings of this program, if there is one for settings of all programs. -/
def findDirectory (host : Host) : Except SettingsError Path :=
  if host.configDirectory?.isSome then .ok (directory host) else .error .directoryMissing

def globalFile? (host : Host) : Option Path :=
  match findDirectory host with
  | .ok directory => some (Path.join directory (Path.ofText "config.yaml".toList))
  | .error _ => none

def namedFile? (host : Host) : Option Path :=
  host.environment.settingsPath?.map Path.ofText

/-- The settings files that are looked for if the environment names none that exists. -/
def standardFiles (host : Host) (current : Path) : List Path :=
  localFiles.map (fun name => Path.join current (Path.ofText name)) ++ (globalFile? host).toList

def candidates (host : Host) (current : Path) : List Path :=
  (namedFile? host).toList ++ standardFiles host current

/-- The settings file, if there is one. -/
def findFile (host : Host) : Except SettingsError (Option Path) :=
  match (namedFile? host).filter host.exists? with
  | some path => .ok (some path)
  | none =>
      match host.currentDirectory with
      | .error error => .error (.system error)
      | .ok current => .ok ((standardFiles host current).find? host.exists?)

def readText (host : Host) (path : Path) : Except SettingsError Text :=
  match host.files.readFile host.base path with
  | .error error => .error (.unreadable path error.message)
  | .ok content =>
      match Utf8.decode content with
      | .error fault => .error (.unreadable path fault.message)
      | .ok text => .ok text

def loadFrom (host : Host) (path : Path) : Except SettingsError Settings := do
  let text ← readText host path
  match parse text with
  | .error fault => throw (.malformed path fault)
  | .ok settings => return settings

/-- The settings in the settings file, or those by default if there is none. -/
def load (host : Host) : Except SettingsError Settings := do
  match ← findFile host with
  | none => return {}
  | some path => loadFrom host path

/-! ## Where files are written -/

/-- A path with a leading `~` replaced by the home directory, if there is one. -/
def expandHome (host : Host) (path : Path) : Path :=
  match Path.afterTilde? path, host.home? with
  | some rest, some home => Path.join home rest
  | _, _ => path

/-- The directory for files if nothing else is settled. -/
def standardRoot (host : Host) : Path :=
  match host.dataDirectory? with
  | some data =>
      Path.join (Path.join data (Path.ofText "kubify".toList)) (Path.ofText "envs".toList)
  | none => Path.ofText "kubify-envs".toList

/-- The directory in which the directories of containers are made: the one that the command line
names, or the environment unless it names the empty path, or the settings. -/
def outputRoot (host : Host) (given? : Option Path) (settings : Settings) : Path :=
  match given?, host.environment.outputDirectory?.filter (· ≠ []), settings.outputDirectory? with
  | some given, _, _ => given
  | none, some named, _ => Path.ofText named
  | none, none, some settled => expandHome host (Path.ofText settled)
  | none, none, none => standardRoot host

end Settings

end RunManifest
