import TagSearch.Settings.Basic

/-!
# Settings files

Settings are kept in a file, by default below the home directory. Loading them checks the directory
and the limit; what is doubtful but usable is a warning.

* `Settings.load` loads settings, `Settings.save` saves them.
* `Settings.read` reads settings as they are written, and `Settings.check` checks them: the
  directory is resolved, and a limit that is not positive is dropped.
-/

namespace TagSearch

/-- Something doubtful about settings. -/
inductive SettingsWarning where
  | noFile (path : PathText)
  | rootMissing (path : PathText)
  | rootNotDirectory (path : PathText)
  | limitIgnored (limit : Int)
  deriving DecidableEq, Repr

namespace SettingsWarning

/-- The wording of a warning. -/
def message : SettingsWarning → String
  | .noFile path =>
    "No config file found at " ++ path.toText ++
      ". Using defaults. Create config with: tag-commander init-config"
  | .rootMissing path => "Root directory not found: " ++ path.toText
  | .rootNotDirectory path => "Root is not a directory: " ++ path.toText
  | .limitIgnored limit =>
    "search.default_limit=" ++ toString limit ++ " is not positive, ignoring it"

/-- Whether a warning is about the directory. -/
def isAboutRoot : SettingsWarning → Bool
  | .rootMissing _ | .rootNotDirectory _ => true
  | _ => false

end SettingsWarning

/-- Why settings cannot be saved. -/
inductive SaveError where
  | path (fault : PathFault)
  | file (fault : FileFault)
  deriving DecidableEq, Repr

namespace Settings

/-- The file that settings are kept in by default. -/
def defaultFile (h : Host) : PathText :=
  (PathText.ofText h.home).join (.ofText ".config/tag-commander/config.toml")

/-- What is doubtful about the directory of settings. -/
def rootWarnings (h : Host) (root : PathText) : Except FileFault (List SettingsWarning) := do
  match ← h.disk.find? h.cwd root with
  | none => return [.rootMissing root]
  | some n => return if n.isDir then [] else [.rootNotDirectory root]

/-- The limit if it is positive. -/
def positiveLimit (limit : Option Int) : Option Int := limit.filter (0 < ·)

/-- What is doubtful about a limit. -/
def limitWarnings (limit : Option Int) : List SettingsWarning :=
  match limit with
  | some n => if 0 < n then [] else [.limitIgnored n]
  | none => []

/-- Checks settings: the directory is resolved, and a limit that is not positive is dropped. -/
def check (h : Host) (s : Settings) : Except SettingsError (Settings × List SettingsWarning) := do
  let root ← (h.resolve s.root).mapError .path
  let warnings ← (rootWarnings h root).mapError .file
  return ({ s with root, limit := positiveLimit s.limit }, warnings ++ limitWarnings s.limit)

/-- Reads the table of a settings file that exists. -/
def readFile (path : PathText) : Node Content → Except SettingsError Toml.Table
  | .file (.text s) =>
    (Toml.Document.read s).mapError fun
      | .malformed => .malformed path
      | .tooManyDigits count => .tooManyDigits count
      | .tooDeep => .tooDeep
  | .file _ => .error .notText
  | _ => .error (.file ⟨.isDirectory, path⟩)

/-- Reads the settings of a file, or of the default file if none is named, as they are written. A
file that does not exist leaves the defaults. -/
def read (h : Host) (file : Option PathText) :
    Except SettingsError (Settings × List SettingsWarning) := do
  let path ← (h.resolve (file.getD (defaultFile h))).mapError .path
  match ← (h.disk.find? h.cwd path).mapError .file with
  | some n =>
    let s ← ofTable { default h.cwd with source := some path } (← readFile path n)
    return (s, [])
  | none => return (default h.cwd, [.noFile path])

/-- Loads the settings of a file, or of the default file if none is named, and checks them. -/
def load (h : Host) (file : Option PathText) :
    Except SettingsError (Settings × List SettingsWarning) := do
  let (s, doubts) ← read h file
  let (s, warnings) ← s.check h
  return (s, doubts ++ warnings)

/-- Saves settings to a file, by default the one that they come from or else the default file.
Returns the path of the file. An error comes with the host, on which directories may be new. -/
def save (h : Host) (s : Settings) (file : Option PathText) :
    Except (Host × SaveError) (Host × PathText) := do
  let file := (file.orElse fun _ => s.source).getD (defaultFile h)
  let path ← (h.resolve file).mapError fun e => (h, .path e)
  let h ← (h.write path (.text s.toText)).mapError fun (h, e) => (h, .file e)
  return (h, path)

end Settings

end TagSearch
