import RunManifest.Proofs.Files.Tilde
import RunManifest.Proofs.Name
import RunManifest.Settings.File

/-!
# The directory under which files are written

Four sources can name it: the command line, the environment, the settings, and the directory for
data.  The first one that is present decides alone, and a system that has none of them takes a
directory of a fixed name.  Only a path from the settings is changed: a leading `~` stands for the
home directory, if there is one, and what follows it leads on from there.
-/

namespace RunManifest.Settings

variable {host other : Host} {given? : Option Path} {settings : Settings}

/-- What a path becomes when a first step `~` stands for the home directory. -/
structure Expands (home? : Option Path) (path result : Path) : Prop where
  underHome : ∀ home, home? = some home → ∀ steps,
    path.components = .normal Path.tilde :: steps → result.components = home.components ++ steps
  homeless : home? = none → result = path
  elsewhere : path.components.head? ≠ some (.normal Path.tilde) → result = path

theorem expands_expandHome (host : Host) (path : Path) :
    Expands host.home? path (expandHome host path) where
  underHome := by
    intro home lives steps leads
    obtain ⟨rest, left, relative, notDot, stepsEq⟩ := Path.exists_afterTilde? leads
    simp only [expandHome, left, lives]
    rw [Path.components_join home relative notDot, stepsEq]
  homeless := by
    intro homeless
    rw [expandHome, homeless]
    cases path.afterTilde? with
    | none =>
        rfl
    | some rest =>
        rfl
  elsewhere := by
    intro elsewhere
    simp only [expandHome, Path.afterTilde?_eq_none elsewhere]

theorem expandHome_congr (sameHome : other.home? = host.home?) (path : Path) :
    expandHome other path = expandHome host path := by
  rw [expandHome, expandHome, sameHome]

/-- Who names the directory, and what is named. -/
inductive RootSource
  | commandLine (given : Path)
  | environment (named : Text)
  | settings (settled : Text)
  | data (directory : Path)
  | fallback
deriving DecidableEq, Repr

variable {source : RootSource}

/-- The sources that are present, those that come first counting more.  An empty text in the
environment is no source, and a system without a home directory may have no directory for data. -/
def rootSources (host : Host) (given? : Option Path) (settings : Settings) : List RootSource :=
  (given?.map .commandLine).toList ++
    ((host.environment.outputDirectory?.filter (· ≠ [])).map .environment).toList ++
    (settings.outputDirectory?.map .settings).toList ++
    (host.dataDirectory?.map .data).toList ++ [.fallback]

def RootSource.root (host : Host) : RootSource → Path
  | .commandLine given => given
  | .environment named => Path.ofText named
  | .settings settled => expandHome host (Path.ofText settled)
  | .data directory =>
      Path.join (Path.join directory (Path.ofText "kubify".toList)) (Path.ofText "envs".toList)
  | .fallback => Path.ofText "kubify-envs".toList

/-- A source decides if no other one comes before it. -/
def Decides (host : Host) (given? : Option Path) (settings : Settings) (source : RootSource) :
    Prop :=
  (rootSources host given? settings).head? = some source

theorem outputRoot_of_decides (decides : Decides host given? settings source) :
    outputRoot host given? settings = source.root host := by
  unfold Decides rootSources at decides
  unfold outputRoot
  generalize host.environment.outputDirectory?.filter (· ≠ []) = named? at decides ⊢
  generalize settings.outputDirectory? = settled? at decides ⊢
  cases given? with
  | some given =>
      cases decides
      rfl
  | none =>
      cases named? with
      | some named =>
          cases decides
          rfl
      | none =>
          cases settled? with
          | some settled =>
              cases decides
              rfl
          | none =>
              rw [standardRoot]
              cases found : host.dataDirectory? with
              | some directory =>
                  rw [found] at decides
                  cases decides
                  rfl
              | none =>
                  rw [found] at decides
                  cases decides
                  rfl

/-- What a source names depends on it alone, and on the home directory if the settings name it. -/
theorem root_congr
    (sameHome : (∃ settled, source = .settings settled) → other.home? = host.home?) :
    source.root other = source.root host := by
  cases source with
  | commandLine given =>
      rfl
  | environment named =>
      rfl
  | settings settled =>
      exact expandHome_congr (sameHome ⟨settled, rfl⟩) _
  | data directory =>
      rfl
  | fallback =>
      rfl

/-! ## The first source -/

theorem decides_environment {named : Text} (present : named ≠ [])
    (set : host.environment.outputDirectory? = some named) :
    Decides host none settings (.environment named) := by
  rw [Decides, rootSources, set, Option.filter_some_pos (by simpa using present)]
  rfl

theorem components_root_data (directory : Path) :
    ((RootSource.data directory).root host).components =
      directory.components ++
        [.normal (Path.ofText "kubify".toList), .normal (Path.ofText "envs".toList)] := by
  rw [RootSource.root, (Name.isEntryName_of_isComponent (by decide)).components_join,
    (Name.isEntryName_of_isComponent (by decide)).components_join, List.append_assoc]
  rfl

/-- The first source that is present decides alone.  What the command line and the environment name
is the directory itself; in what the settings name a first step `~` stands for the home directory, if
there is one, and in nothing else. -/
theorem outputRoot_follows_precedence :
    (∀ (host other : Host) (given? otherGiven? : Option Path) (settings otherSettings : Settings)
      (source : RootSource),
      Decides host given? settings source → Decides other otherGiven? otherSettings source →
      ((∃ settled, source = .settings settled) → other.home? = host.home?) →
      outputRoot other otherGiven? otherSettings = outputRoot host given? settings) ∧
    (∀ (host : Host) (given : Path) (settings : Settings),
      outputRoot host (some given) settings = given) ∧
    (∀ (host : Host) (named : Text) (settings : Settings), named ≠ [] →
      host.environment.outputDirectory? = some named →
      outputRoot host none settings = Path.ofText named) ∧
    (∀ (host : Host) (given? : Option Path) (settings : Settings) (settled : Text),
      Decides host given? settings (.settings settled) →
      Expands host.home? (Path.ofText settled) (outputRoot host given? settings)) ∧
    (∀ (host : Host) (path : Path), Expands host.home? path (expandHome host path)) ∧
    (∀ (host : Host) (given? : Option Path) (settings : Settings) (directory : Path),
      Decides host given? settings (.data directory) →
      (outputRoot host given? settings).components = directory.components ++
        [.normal (Path.ofText "kubify".toList), .normal (Path.ofText "envs".toList)]) ∧
    ∀ (host : Host) (given? : Option Path) (settings : Settings),
      Decides host given? settings .fallback →
      outputRoot host given? settings = Path.ofText "kubify-envs".toList := by
  refine ⟨?_, fun _ _ _ => rfl, ?_, ?_, expands_expandHome, ?_, ?_⟩
  · intro host other given? otherGiven? settings otherSettings source decides otherDecides sameHome
    rw [outputRoot_of_decides decides, outputRoot_of_decides otherDecides, root_congr sameHome]
  · intro host named settings present set
    exact outputRoot_of_decides (decides_environment present set)
  · intro host given? settings settled decides
    rw [outputRoot_of_decides decides]
    exact expands_expandHome host (Path.ofText settled)
  · intro host given? settings directory decides
    rw [outputRoot_of_decides decides]
    exact components_root_data directory
  · intro host given? settings decides
    rw [outputRoot_of_decides decides]
    rfl

/-- A system with a home directory and a directory that the environment names. -/
def lodging (home : String) (named? : Option Text) : Host where
  files := .empty
  base := .root
  environment := { home? := some home.toList, outputDirectory? := named? }
  accountHome := Path.ofText "/root".toList
  programs := []

def homeless : Host :=
  { lodging "" none with accountHome := none }

def settling (directory : String) : Settings where
  outputDirectory? := some directory.toList

theorem outputRoot_follows_precedence_lodging :
    outputRoot (lodging "/srv" (some "~/x".toList)) none {} =
        outputRoot (lodging "/home" (some "~/x".toList)) none (settling "/y") ∧
      outputRoot (lodging "/home" none) (some [0xFF]) (settling "/y") = [0xFF] ∧
      outputRoot (lodging "/home" (some "~/x".toList)) none (settling "/y") =
        Path.ofText "~/x".toList ∧
      (outputRoot (lodging "/home" (some [])) none (settling "~/.//x/")).components =
        [.root, .normal (Path.ofText "home".toList), .normal (Path.ofText "x".toList)] ∧
      expandHome (lodging "/home" none) (Path.ofText "~x/y".toList) =
        Path.ofText "~x/y".toList ∧
      expandHome homeless (Path.ofText "~/x".toList) = Path.ofText "~/x".toList ∧
      (outputRoot (lodging "/home" none) none {}).components =
        (Path.ofText "/home/.local/share".toList).components ++
          [.normal (Path.ofText "kubify".toList), .normal (Path.ofText "envs".toList)] ∧
      outputRoot homeless none {} = Path.ofText "kubify-envs".toList := by
  obtain ⟨firstAlone, commandLine, environment, fromSettings, expands, fromData, fromFallback⟩ :=
    outputRoot_follows_precedence
  refine ⟨?_, ?_, ?_, ?_, ?_, ?_, ?_, ?_⟩
  · refine firstAlone _ _ _ _ _ _ (.environment "~/x".toList) rfl rfl ?_
    rintro ⟨settled, other⟩
    cases other
  · exact commandLine _ _ _
  · exact environment _ _ _ (by decide) rfl
  · have leads : (Path.ofText "~/.//x/".toList).components =
        [.normal Path.tilde, .normal (Path.ofText "x".toList)] := by
      decide
    have decides : Decides (lodging "/home" (some [])) none (settling "~/.//x/")
        (.settings "~/.//x/".toList) :=
      rfl
    exact (fromSettings _ _ _ _ decides).underHome _ rfl _ leads
  · exact (expands _ _).elsewhere (by decide)
  · exact (expands _ _).homeless rfl
  · exact fromData _ _ _ _ rfl
  · exact fromFallback _ _ _ rfl

/-- Steps to the directory above are kept, also behind the home directory. -/
example : expandHome (lodging "/home" none) (Path.ofText "~/../x".toList) =
    Path.ofText "/home/../x".toList := by
  decide

end RunManifest.Settings
