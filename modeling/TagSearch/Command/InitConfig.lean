import TagSearch.Command.Outcome

/-!
# The command `init-config`

Writes a settings file: the commented example, or the settings with a given directory.

* `CommandContext.initConfig` carries out the command.
-/

namespace TagSearch

/-- The commented example of a settings file. -/
def exampleSettings : String :=
"# tag-commander configuration
#
# Default location: ~/.config/tag-commander/config.toml

[paths]
# Directory whose files are indexed and searched.
# The index database (.tag-commander.db) is stored inside it.
# root = \"~/samples\"

[display]
# Use colors in terminal output (also disabled by --no-color or NO_COLOR)
colored_output = true

[search]
# How inpath: patterns match file paths relative to the root:
#   \"exact\"    - the whole path must equal the pattern (default)
#   \"prefix\"   - inpath:res/audio/ matches everything below res/audio/
#   \"contains\" - the pattern may appear anywhere in the path
# Use --path-match on the command line to override per search.
path_match = \"exact\"

# Maximum number of results to show (omit for no limit)
# default_limit = 500
"

/-- What a settings file is written with. -/
structure InitRequest where
  force : Bool
  /-- The file to write, if not the default one. -/
  output : Option String
  /-- The directory for the settings, if not the example is written. -/
  root : Option String
  deriving DecidableEq, Repr

namespace CommandContext

/-- Writes the new settings file. -/
def writeSettings (c : CommandContext) (q : InitRequest) (file : PathText) :
    Except (Host × SaveError) Host := do
  match q.root with
  | none => (c.host.write file (.text exampleSettings)).mapError fun (h, e) => (h, .file e)
  | some dir =>
    let root ← (c.host.resolve (.ofText dir)).mapError fun e => (c.host, .path e)
    let (h, _) ← { Settings.default c.host.cwd with root }.save c.host (some file)
    return h

/-- Reports a settings file that exists already, or writes it. -/
def createSettings (c : CommandContext) (q : InitRequest) (file : PathText) (isThere : Bool)
    (r : Report) : Outcome :=
  if isThere && !q.force then
    c.leave .refused ((r.fail ("Config file already exists: " ++ file.toText)).hint
      "Use --force to overwrite")
  else
    match c.writeSettings q file with
    | .error (host, .file e) =>
      ⟨.refused, r.fail ("Failed to write config file: " ++ e.message), host⟩
    | .error (host, .path _) => ⟨.failed, r, host⟩
    | .ok host =>
      ⟨.success, (r.success ("Created config file: " ++ file.toText)).info
        "Edit this file to customize your settings.", host⟩

/-- The command `init-config`. -/
def initConfig (c : CommandContext) (q : InitRequest) (r : Report) : Outcome :=
  match c.host.resolve ((q.output.map .ofText).getD (Settings.defaultFile c.host)) with
  | .error _ => c.leave .failed r
  | .ok file =>
    match c.host.disk.find? c.host.cwd file with
    | .error _ => c.leave .failed r
    | .ok n => c.createSettings q file n.isSome r

end CommandContext

end TagSearch
