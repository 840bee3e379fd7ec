import RunManifest.Proofs.Settings.Search

/-!
# The settings file that wins

The first place that leads to something decides on the settings alone: if it is the same in two
systems and the same stands there, they have the same settings, or the same error says why there are
none.  Nothing at a later place makes up for a winner that tells no settings.

Without a directory in which the program runs the search fails, unless the environment names a file
that exists (`CanSearch`).
-/

namespace RunManifest.Settings

open FileTree Outcomes

variable {host other : Host} {settings : Settings} {path : Path} {error : SettingsError}

/-- The places at which settings can be.  If the directory in which the program runs has been
removed, none of them is in it, and without a directory for settings none is in that. -/
def places (host : Host) : List Path :=
  match host.currentDirectory with
  | .ok current => candidates host current
  | .error _ => (namedFile? host).toList ++ (globalFile? host).toList

def winner? (host : Host) : Option Path :=
  (places host).find? host.exists?

/-- The environment names a file that exists, or the directory in which the program runs is there. -/
def CanSearch (host : Host) : Prop :=
  (∃ path, namedFile? host = some path ∧ host.exists? path = true) ∨ host.base.isRemoved = false

theorem currentDirectory_cases (host : Host) :
    (host.base.isRemoved = false ∧ ∃ current, host.currentDirectory = .ok current) ∨
      host.base.isRemoved = true ∧ host.currentDirectory = .error .notFound := by
  unfold Host.currentDirectory
  cases removed : host.base.isRemoved with
  | false =>
      exact .inl ⟨rfl, _, if_neg Bool.false_ne_true⟩
  | true =>
      exact .inr ⟨rfl, if_pos rfl⟩

/-- A search that can be carried out finds the winner. -/
theorem findFile_of_canSearch (canSearch : CanSearch host) :
    findFile host = .ok (winner? host) := by
  rw [findFile_eq, winner?]
  rcases currentDirectory_cases host with ⟨-, current, there⟩ | ⟨removed, gone⟩
  · have same : searched host = places host := by
      simp only [searched, places, there]
      rfl
    rw [same, there]
    cases (places host).find? host.exists? with
    | none =>
        rfl
    | some path =>
        rfl
  · rcases canSearch with ⟨path, named, present⟩ | stays
    · simp [searched, places, gone, named, present]
    · rw [removed] at stays
      cases stays

theorem findFile_of_not_canSearch (stuck : ¬CanSearch host) :
    findFile host = .error (.system .notFound) := by
  rw [CanSearch, not_or] at stuck
  rw [findFile_eq]
  rcases currentDirectory_cases host with ⟨stays, -⟩ | ⟨-, gone⟩
  · exact absurd stays stuck.2
  · have nothing : (searched host).find? host.exists? = none := by
      rw [List.find?_eq_none]
      intro path member present
      rw [searched, gone, List.append_nil, Option.mem_toList] at member
      exact stuck.1 ⟨path, member, present⟩
    rw [nothing, gone]

/-- A path leads to a file that can be read and in which settings are told. -/
def Tells (host : Host) (path : Path) (settings : Settings) : Prop :=
  ∃ content text, host.files.readFile host.base path = .ok content ∧
    Utf8.decode content = .ok text ∧ parse text = .ok settings

/-- An error says that the file at a path tells no settings. -/
inductive Blames (path : Path) : SettingsError → Prop
  | unreadable (reason : Text) : Blames path (.unreadable path reason)
  | malformed (fault : SettingsFault) : Blames path (.malformed path fault)

theorem loadFrom_eq_ok_iff : loadFrom host path = .ok settings ↔ Tells host path settings := by
  rw [loadFrom, bind_eq_ok_iff, Tells]
  simp only [readText_eq_ok_iff]
  constructor
  · rintro ⟨text, ⟨content, read, spells⟩, parsed⟩
    refine ⟨content, text, read, spells, ?_⟩
    cases outcome : parse text with
    | error fault =>
        rw [outcome] at parsed
        cases parsed
    | ok found =>
        rw [outcome] at parsed
        cases parsed
        rfl
  · rintro ⟨content, text, read, spells, parsed⟩
    refine ⟨text, ⟨content, read, spells⟩, ?_⟩
    rw [parsed]
    rfl

theorem blames_of_readText (failed : readText host path = .error error) : Blames path error := by
  unfold readText at failed
  split at failed
  · cases failed
    exact .unreadable _
  · split at failed
    · cases failed
      exact .unreadable _
    · cases failed

theorem blames_of_loadFrom (failed : loadFrom host path = .error error) : Blames path error := by
  rw [loadFrom, bind_eq_error_iff] at failed
  rcases failed with failed | ⟨text, -, failed⟩
  · exact blames_of_readText failed
  · split at failed
    · cases failed
      exact .malformed _
    · cases failed

/-! ## Loading -/

theorem load_of_winner (canSearch : CanSearch host) (wins : winner? host = some path) :
    load host = loadFrom host path := by
  rw [load, findFile_of_canSearch canSearch, wins]
  rfl

theorem load_of_no_winner (canSearch : CanSearch host) (noWinner : winner? host = none) :
    load host = .ok {} := by
  rw [load, findFile_of_canSearch canSearch, noWinner]
  rfl

theorem load_of_not_canSearch (stuck : ¬CanSearch host) :
    load host = .error (.system .notFound) := by
  rw [load, findFile_of_not_canSearch stuck]
  rfl

/-- The same system in an environment that names no settings file. -/
def unnamed (host : Host) : Host :=
  { host with environment := { host.environment with settingsPath? := none } }

/-- A settings file that the environment names and that does not exist is as good as none. -/
theorem load_of_dangling (named : namedFile? host = some path)
    (absent : host.exists? path = false) : load host = load (unnamed host) := by
  have same : findFile host = findFile (unnamed host) := by
    rw [findFile, named, Option.filter_some_neg (by simp [absent])]
    rfl
  rw [load, load, same]
  rfl

theorem findFile_ne_directoryMissing (host : Host) :
    findFile host ≠ .error .directoryMissing := by
  intro missing
  rw [findFile_eq] at missing
  split at missing
  · cases missing
  · cases missing
  · cases missing

/-- That there is no directory for settings is never an error. -/
theorem load_ne_directoryMissing (host : Host) : load host ≠ .error .directoryMissing := by
  intro missing
  rw [load, bind_eq_error_iff] at missing
  rcases missing with missing | ⟨file?, -, missing⟩
  · exact findFile_ne_directoryMissing host missing
  · cases file? with
    | none =>
        cases missing
    | some path =>
        cases blames_of_loadFrom missing

/-- The winner decides on the settings alone: on the settings that it tells, or on the error if it
tells none.  Without a winner the settings are those by default, also if there is no directory for
settings.  A search that is stuck is an error of its own, whatever is at the places. -/
theorem load_follows_winner :
    (∀ (host other : Host) (path : Path), CanSearch host → CanSearch other →
      winner? host = some path → winner? other = some path →
      other.files.lookup? other.base path = host.files.lookup? host.base path →
      load other = load host) ∧
    (∀ (host : Host) (path : Path), CanSearch host → winner? host = some path →
      (∀ settings, load host = .ok settings ↔ Tells host path settings) ∧
      ((∀ settings, ¬Tells host path settings) →
        ∃ error, load host = .error error ∧ Blames path error)) ∧
    (∀ (host : Host) (path : Path), namedFile? host = some path → host.exists? path = false →
      load host = load (unnamed host)) ∧
    (∀ host : Host, CanSearch host → winner? host = none → load host = .ok {}) ∧
    (∀ host : Host, ¬CanSearch host → load host = .error (.system .notFound)) ∧
    ∀ host : Host, load host ≠ .error .directoryMissing := by
  refine ⟨?_, ?_, fun _ _ => load_of_dangling, fun _ => load_of_no_winner,
    fun _ => load_of_not_canSearch, load_ne_directoryMissing⟩
  · intro host other path canSearch otherCanSearch wins otherWins same
    rw [load_of_winner canSearch wins, load_of_winner otherCanSearch otherWins]
    exact loadFrom_congr (List.find?_some wins) same
  · intro host path canSearch wins
    have loaded := load_of_winner canSearch wins
    constructor
    · intro settings
      rw [loaded, loadFrom_eq_ok_iff]
    · intro tellsNone
      cases outcome : loadFrom host path with
      | error error =>
          exact ⟨error, loaded.trans outcome, blames_of_loadFrom outcome⟩
      | ok settings =>
          exact absurd (loadFrom_eq_ok_iff.mp outcome) (tellsNone settings)

/-- A system with some files, in the directory at a place. -/
def system (base : Base) (environment : Environment) (files : List (Text × Bytes)) : Host where
  files := files.foldl
    (fun tree file =>
      (tree.writeFile .root (Path.ofText file.1) file.2).toOption.getD tree)
    .empty
  base
  environment
  accountHome := Path.ofText "/root".toList
  programs := []

def naming (file : String) : Environment where
  settingsPath? := some file.toList

def broken : Text × Bytes :=
  ("/broken".toList, [0xFF])

/-- A system in which the settings file that is named is broken, and a good one stands where the
program runs. -/
def spoiled : Host :=
  system .root (naming "/broken")
    [broken, ("/kubify.yaml".toList, Utf8.encode "output_dir: /srv\n".toList)]

/-- A system without a directory for settings. -/
def homelessSystem : Host :=
  { system .root {} [] with accountHome := none }

/-- A system in which the directory where the program runs has been removed. -/
def stranded : Host :=
  system ⟨[Path.ofText "work".toList], 1⟩ {} []

theorem load_follows_winner_spoiled :
    load (system .root (naming "/broken") [broken]) = load spoiled ∧
      (∃ error, load spoiled = .error error ∧ Blames (Path.ofText "/broken".toList) error) ∧
      load (system .root (naming "/absent") []) =
        load (unnamed (system .root (naming "/absent") [])) ∧
      load homelessSystem = .ok {} ∧
      load stranded = .error (.system .notFound) ∧
      load spoiled ≠ .error .directoryMissing := by
  obtain ⟨sameWinner, tells, dangling, noWinner, stuck, noLeak⟩ := load_follows_winner
  have wins : winner? spoiled = some (Path.ofText "/broken".toList) := by
    decide +kernel
  refine ⟨?_, ?_, ?_, ?_, ?_, noLeak spoiled⟩
  · exact sameWinner spoiled _ _ (.inr rfl) (.inr rfl) wins (by decide +kernel) (by decide +kernel)
  · refine (tells spoiled _ (.inr rfl) wins).2 ?_
    rintro settings ⟨content, text, read, spells, -⟩
    have readBroken : spoiled.files.readFile spoiled.base (Path.ofText "/broken".toList) =
        .ok [0xFF] :=
      eq_ok_of_toOption (by decide +kernel)
    rw [readBroken] at read
    cases read
    cases spells
  · exact dangling _ _ rfl (by decide +kernel)
  · exact noWinner homelessSystem (.inr rfl) (by decide +kernel)
  · refine stuck stranded ?_
    rintro (⟨path, named, -⟩ | stays)
    · cases named
    · cases stays

/-- Nothing stands where settings are looked for, and yet the settings are not those by default. -/
theorem load_stranded :
    stranded.base.settle stranded.files = stranded.base ∧
      (∀ path ∈ places stranded, stranded.exists? path = false) ∧
      load stranded = .error (.system .notFound) :=
  ⟨rfl, by decide +kernel, rfl⟩

example : (load (unnamed spoiled)).toOption = some { outputDirectory? := some "/srv".toList } := by
  decide +kernel

end RunManifest.Settings
