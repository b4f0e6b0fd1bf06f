import TagSearch.Command.InitConfig
import TagSearch.Command.Search
import TagSearch.Command.Tags
import TagSearch.Command.Upkeep

/-!
# Running a command line

A command line is read from left to right: the options in front of the command, its name, then its
own arguments. The settings are loaded once the command is known, and before its arguments are read.

* `Host.run` runs a command line.
-/

namespace TagSearch

namespace CommandPath

/-- The outcome of a command line that is wrong. -/
def wrong (c : CommandPath) (h : Host) (r : Report) (e : UsageError) : Outcome :=
  ⟨.usageError, r.echoError (c.usageNote ++ "Error: " ++ e.message), h⟩

/-- The outcome of a command that leads to others and was called without arguments. -/
def describe (c : CommandPath) (h : Host) (r : Report) : Outcome :=
  ⟨.usageError, { r with err := r.err ++ c.manual }, h⟩

/-- The outcome of an interrupted reading of arguments. -/
def interrupt (c : CommandPath) (h : Host) (r : Report) : Interruption → Outcome
  | .help => ⟨.success, r.write c.manual, h⟩
  | .version => ⟨.success, r.echo (programName ++ ", version " ++ programVersion), h⟩
  | .wrong e => c.wrong h r e
  | .fault => ⟨.failed, r, h⟩

/-- Reads the arguments of a command and goes on with them. -/
def accepting (c : CommandPath) (h : Host) (r : Report) (arguments : List String)
    (go : List OptionUse → List String → Outcome) : Outcome :=
  match c.spec.accept h arguments with
  | .error i => c.interrupt h r i
  | .ok (uses, operands) => go uses operands

/-- The error about a name that leads nowhere. -/
def unknown (c : CommandPath) (name : String) : UsageError :=
  .noSuchCommand name (Text.closest name c.names)

/-- The command that the first operand names, and the arguments that are left for it. A name that
starts with a dash, and so stands behind two dashes, is read as an option once more. -/
def next (c : CommandPath) (h : Host) (r : Report) (operands : List String)
    (go : CommandPath → List String → Outcome) : Outcome :=
  match operands with
  | [] => c.wrong h r .missingCommand
  | name :: rest =>
    match c.find? name with
    | some d => go d rest
    | none =>
      if name.toList.head? = some '-' then
        match c.spec.accept h operands with
        | .error i => c.interrupt h r i
        | .ok _ => c.wrong h r (c.unknown name)
      else c.wrong h r (c.unknown name)

/-- The command that names lead to. Names behind a command that leads no further are ignored; the
error is a name that leads nowhere. -/
def follow (c : CommandPath) : List String → Except String CommandPath
  | [] => .ok c
  | name :: rest =>
    if c.leads then
      match c.find? name with
      | some d => d.follow rest
      | none => .error name
    else .ok c

end CommandPath

namespace CommandContext

/-- The command `help`. -/
def describe (c : CommandContext) (names : List String) (r : Report) : Outcome :=
  match CommandPath.program.follow names with
  | .ok d => c.leave .success (r.write d.manual)
  | .error name => c.leave .refused (r.fail ("Unknown command: " ++ name))

/-- Carries out a command that leads to no others. -/
def perform (c : CommandContext) (command : CommandPath) (uses : List OptionUse)
    (operands : List String) (ticks : List (List DiskEvent)) (r : Report) : Outcome :=
  match command with
  | .help => c.describe operands r
  | .initConfig =>
    c.initConfig ⟨OptionUse.isOn uses "force", OptionUse.value? uses "output",
      OptionUse.value? uses "root"⟩ r
  | .rebuildIndex => c.rebuildIndex (OptionUse.isOn uses "prune") r
  | .search => c.search (.ofUses uses operands) r
  | .watch => c.watch ticks r
  | .tagsAdd => c.editTags .add command.usageNote operands (OptionUse.values uses "tag") r
  | .tagsRemove => c.editTags .remove command.usageNote operands (OptionUse.values uses "tag") r
  | .tagsList => c.listTags (OptionUse.value? uses "format" == some "json") r
  | .program | .tags => c.leave .success r

/-- Reads the arguments of a command and carries it out. -/
def dispatch (c : CommandContext) (command : CommandPath) (arguments : List String)
    (ticks : List (List DiskEvent)) (r : Report) : Outcome :=
  if command.leads && arguments.isEmpty then command.describe c.host r
  else
    command.accepting c.host r arguments fun uses operands =>
      if command.leads then
        command.next c.host r operands fun command arguments =>
          command.accepting c.host r arguments fun uses operands =>
            c.perform command uses operands ticks r
      else c.perform command uses operands ticks r

end CommandContext

namespace Host

/-- The settings for a command line. A directory given there replaces that of the settings, and the
warnings about it are dropped. -/
def settingsFor (h : Host) (uses : List OptionUse) :
    Except SettingsError (Settings × List SettingsWarning) := do
  let file := (OptionUse.value? uses "config").map PathText.ofText
  let (s, warnings) ← Settings.load h file
  match OptionUse.value? uses "root" with
  | none => return (s, warnings)
  | some dir =>
    let root ← (h.resolve (.ofText dir)).mapError .path
    return ({ s with root }, warnings.filter fun w => !w.isAboutRoot)

/-- Loads the settings for a command line and goes on with them. -/
def withSettings (h : Host) (uses : List OptionUse) (capacity : Nat)
    (go : CommandContext → Report → Outcome) : Outcome :=
  match h.settingsFor uses with
  | .error e => ⟨.refused, Report.empty.fail e.message, h⟩
  | .ok (settings, warnings) =>
    let debug := OptionUse.isOn uses "debug"
    let c : CommandContext :=
      { host := h
        settings
        capacity
        verbose := OptionUse.isOn uses "verbose" || debug
        debug
        quiet := OptionUse.isOn uses "quiet" }
    go c (c.unlessQuiet .empty fun r => r.addAll (fun r w => r.warn w.message) warnings)

/-- Runs a command line. The ticks are the events that come while a directory is watched, and the
capacity is that of the engine that keeps indexes. -/
def run (h : Host) (arguments : List String) (ticks : List (List DiskEvent))
    (capacity : Nat := usualCapacity) : Outcome :=
  if arguments.isEmpty then CommandPath.program.describe h .empty
  else
    CommandPath.program.accepting h .empty arguments fun uses operands =>
      CommandPath.program.next h .empty operands fun command arguments =>
        h.withSettings uses capacity fun c r => c.dispatch command arguments ticks r

end Host

end TagSearch
