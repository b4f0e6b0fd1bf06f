import TagSearch.Command.Arguments
import TagSearch.Like

/-!
# The commands

The commands of the program with their options, and the options in front of a command. Two names
lead to a command below `tags`.

* `CommandPath` is a command, `CommandPath.spec` what it accepts.
* `CommandPath.find?` is the command that a name leads to.
* `CommandPath.usage` and `CommandPath.manual` describe a command.
-/

namespace TagSearch

/-- The program itself and its commands. -/
inductive CommandPath where
  | program
  | help
  | initConfig
  | rebuildIndex
  | search
  | watch
  | tags
  | tagsAdd
  | tagsList
  | tagsRemove
  deriving DecidableEq, Repr

/-- The name of the program. -/
def programName : String := "tag-commander"

/-- The version of the program. -/
def programVersion : String := "0.1.0"

/-- The option that every command has. -/
def helpOption : OptionSpec :=
  { name := CommandSpec.helpName, spellings := ["--help"], kind := .switch }

/-- The formats of search results. -/
inductive ResultFormat where
  | table
  | paths
  | json
  deriving DecidableEq, Repr

namespace ResultFormat

/-- The word for a format. -/
def name : ResultFormat → String
  | .table => "table"
  | .paths => "paths"
  | .json => "json"

/-- The format of a word. -/
def ofName? (word : String) : Option ResultFormat := [table, paths, json].find? (·.name == word)

end ResultFormat

namespace CommandPath

/-- The words that lead to a command. -/
def words : CommandPath → List String
  | .program => []
  | .help => ["help"]
  | .initConfig => ["init-config"]
  | .rebuildIndex => ["rebuild-index"]
  | .search => ["search"]
  | .watch => ["watch"]
  | .tags => ["tags"]
  | .tagsAdd => ["tags", "add"]
  | .tagsList => ["tags", "list"]
  | .tagsRemove => ["tags", "remove"]

/-- All commands. -/
def all : List CommandPath :=
  [.program, .help, .initConfig, .rebuildIndex, .search, .watch, .tags, .tagsAdd, .tagsList,
    .tagsRemove]

/-- The command that a name leads to from another command. -/
def find? (c : CommandPath) (name : String) : Option CommandPath :=
  all.find? fun d => d.words == c.words ++ [name]

/-- The names of the commands that another one leads to. -/
def names (c : CommandPath) : List String :=
  (all.filter fun d => d.words.dropLast == c.words && !d.words.isEmpty).filterMap fun d =>
    d.words.getLast?

/-- The options of a command. -/
def options : CommandPath → List OptionSpec
  | .program =>
    [{ name := "config", spellings := ["--config", "-c"], kind := .text },
      { name := "root", spellings := ["--root", "-R"], kind := .directory },
      { name := "no-color", spellings := ["--no-color"], kind := .switch },
      { name := "verbose", spellings := ["--verbose", "-v"], kind := .switch },
      { name := "debug", spellings := ["--debug"], kind := .switch },
      { name := "quiet", spellings := ["--quiet", "-q"], kind := .switch },
      { name := "pager", spellings := ["--pager"], kind := .switch, opposites := ["--no-pager"] },
      { name := CommandSpec.versionName, spellings := ["--version"], kind := .switch }]
  | .initConfig =>
    [{ name := "force", spellings := ["--force", "-f"], kind := .switch },
      { name := "output", spellings := ["--output", "-o"], kind := .text },
      { name := "root", spellings := ["--root"], kind := .directory }]
  | .rebuildIndex => [{ name := "prune", spellings := ["--prune"], kind := .switch }]
  | .search =>
    [{ name := "format", spellings := ["--format", "-f"],
        kind := .choice (["table", "paths", "json"]) },
      { name := "limit", spellings := ["--limit", "-l"], kind := .count },
      { name := "path-match", spellings := ["--path-match", "-m"],
        kind := .choice (PathMatch.all.map PathMatch.name) },
      { name := "explain", spellings := ["--explain"], kind := .switch },
      { name := "rescan", spellings := ["--rescan"], kind := .switch }]
  | .watch => [{ name := "interval", spellings := ["--interval", "-i"], kind := .seconds }]
  | .tagsAdd | .tagsRemove =>
    [{ name := "tag", spellings := ["--tag", "-t"], kind := .text, required := true }]
  | .tagsList =>
    [{ name := "format", spellings := ["--format", "-f"], kind := .choice (["table", "json"]) }]
  | .help | .tags => []

/-- The operands of a command. -/
def operands : CommandPath → Option (String × Bool)
  | .help => some ("[COMMAND]...", false)
  | .search => some ("QUERY...", true)
  | .tagsAdd | .tagsRemove => some ("PATHS...", true)
  | _ => none

/-- Whether a command leads to further ones. -/
def leads : CommandPath → Bool
  | .program | .tags => true
  | _ => false

/-- What a command accepts. -/
def spec (c : CommandPath) : CommandSpec := ⟨c.options ++ [helpOption], c.operands, c.leads⟩

/-! ## Descriptions -/

/-- The words that a command is called by. -/
def call (c : CommandPath) : String := " ".intercalate (programName :: c.words)

/-- The line that tells how a command is used. -/
def usage (c : CommandPath) : String :=
  "Usage: " ++ c.call ++ " [OPTIONS]" ++
    (if c.leads then " COMMAND [ARGS]..."
      else match c.operands with
        | some (name, _) => " " ++ name
        | none => "")

/-- The description of a command: how it is used, its options, and the commands below it. -/
def manual (c : CommandPath) : String :=
  let below := c.names.map fun name => "  " ++ name ++ "\n"
  c.usage ++ "\n\nOptions:\n" ++
    String.join (c.spec.options.map fun o =>
      "  " ++ ", ".intercalate (o.spellings ++ o.opposites) ++ "\n") ++
    if below.isEmpty then "" else "\nCommands:\n" ++ String.join below

/-- What is printed about a wrong command line, in front of the error. -/
def usageNote (c : CommandPath) : String :=
  c.usage ++ "\nTry '" ++ c.call ++ " --help' for help.\n\n"

end CommandPath

end TagSearch
