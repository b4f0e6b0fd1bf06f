import TagSearch.Command.Option

/-!
# Reading arguments

The arguments of a command are options and operands. An option is written out after two dashes or as
one letter after a dash; letters can share a dash, and a value may be joined to its option. Two
dashes alone end the options. Options stand anywhere among the operands of a plain command, and in
front of all operands if these begin with the name of a further command.

* `readArguments` splits arguments into the uses of options and the operands.
* `CommandSpec.accept` checks both: options in the order of their first use, then operands, then the
  options that are required and were not used.
-/

namespace TagSearch

/-- What a command accepts. -/
structure CommandSpec where
  options : List OptionSpec
  /-- The name of the operands, if the command takes any, and whether there must be one. -/
  operands : Option (String × Bool)
  /-- Whether the first operand is the name of a further command. -/
  leads : Bool
  deriving DecidableEq, Repr

/-- The use of an option. -/
structure OptionUse where
  name : String
  value : String
  /-- Whether a switch was turned on. -/
  on : Bool
  deriving DecidableEq, Repr

/-- What ends the reading of arguments. -/
inductive Interruption where
  | help
  | version
  | wrong (e : UsageError)
  /-- A value that cannot even be looked up. -/
  | fault
  deriving DecidableEq, Repr

/-! ## Options and operands -/

namespace CommandSpec

/-- The option of a spelling, and whether the spelling turns it on. -/
def spelled? (c : CommandSpec) (spelling : String) : Option (OptionSpec × Bool) :=
  match c.options.find? (·.spellings.contains spelling) with
  | some o => some (o, true)
  | none => (c.options.find? (·.opposites.contains spelling)).map (·, false)

/-- The spellings that are written out after two dashes. -/
def longSpellings (c : CommandSpec) : List String :=
  (c.options.flatMap fun o => o.spellings ++ o.opposites).filter (·.startsWith "--")

/-- Reads the letters behind a single dash. The result tells whether the last of them took the next
argument for its value. -/
def readLetters (c : CommandSpec) (next : Option String) :
    List Char → Except UsageError (List OptionUse × Bool)
  | [] => .ok ([], false)
  | letter :: rest =>
    let spelling := String.ofList ['-', letter]
    match c.spelled? spelling with
    | none => .error (.noSuchOption spelling [])
    | some (o, on) =>
      if o.kind.takesValue then
        if rest.isEmpty then
          match next with
          | some value => .ok ([⟨o.name, value, on⟩], true)
          | none => .error (.needsArgument spelling)
        else .ok ([⟨o.name, String.ofList rest, on⟩], false)
      else (c.readLetters next rest).map fun (uses, took) => (⟨o.name, "", on⟩ :: uses, took)

/-- Reads an option that is written out, with the value that is joined to it if there is one. -/
def readWord (c : CommandSpec) (next : Option String) (spelling : String) (joined : Option String) :
    Except UsageError (List OptionUse × Bool) :=
  match c.spelled? spelling with
  | none => .error (.noSuchOption spelling (Text.closest spelling c.longSpellings))
  | some (o, on) =>
    if o.kind.takesValue then
      match joined, next with
      | some value, _ => .ok ([⟨o.name, value, on⟩], false)
      | none, some value => .ok ([⟨o.name, value, on⟩], true)
      | none, none => .error (.needsArgument spelling)
    else if joined.isSome then .error (.takesNoValue spelling)
    else .ok ([⟨o.name, "", on⟩], false)

/-- The text in front of the first equals sign, and the text behind it if there is one. -/
def splitJoined (s : List Char) : String × Option String :=
  match s.dropWhile (· != '=') with
  | [] => (String.ofList s, none)
  | _ :: value => (String.ofList (s.takeWhile (· != '=')), some (String.ofList value))

/-- Reads an argument that starts with a dash and is longer than it. -/
def readOption (c : CommandSpec) (next : Option String) (argument : List Char) :
    Except UsageError (List OptionUse × Bool) :=
  match argument with
  | '-' :: '-' :: _ =>
    let (spelling, joined) := splitJoined argument
    c.readWord next spelling joined
  | _ => c.readLetters next (argument.drop 1)

/-- Whether an argument is an option. -/
def isOption (argument : List Char) : Bool := argument.head? == some '-' && 2 ≤ argument.length

/-- Splits arguments into the uses of options and the operands. -/
def readArguments (c : CommandSpec) :
    List String → Except UsageError (List OptionUse × List String)
  | [] => .ok ([], [])
  | argument :: rest =>
    if argument = "--" then .ok ([], rest)
    else if isOption argument.toList then
      match c.readOption rest.head? argument.toList with
      | .error e => .error e
      | .ok (uses, took) =>
        let further : Except UsageError (List OptionUse × List String) :=
          match took, rest with
          | true, _ :: rest => c.readArguments rest
          | _, rest => c.readArguments rest
        further.map fun (others, operands) => (uses ++ others, operands)
    else if c.leads then .ok ([], argument :: rest)
    else (c.readArguments rest).map fun (uses, operands) => (uses, argument :: operands)
termination_by arguments => arguments.length

/-! ## Checks -/

/-- The value of an option, that of its last use. -/
def lastUse? (uses : List OptionUse) (name : String) : Option OptionUse :=
  (uses.filter (·.name == name)).getLast?

/-- Checks the last value of an option. -/
def checkOption (h : Host) (uses : List OptionUse) (o : OptionSpec) : Except Interruption Unit :=
  match lastUse? uses o.name with
  | none => .ok ()
  | some use =>
    if o.kind.failsOn use.value then .error .fault
    else
      match o.kind.refuse? h use.value with
      | some reason => .error (.wrong (.invalidValue (listSpellings o.spellings) reason))
      | none => .ok ()

/-- The options that are used, in the order of their first use. -/
def usedOptions (c : CommandSpec) (uses : List OptionUse) : List OptionSpec :=
  (uses.map (·.name)).eraseDups.filterMap fun name => c.options.find? (·.name == name)

/-- Checks the operands of a command. -/
def checkOperands (c : CommandSpec) (operands : List String) : Except UsageError Unit :=
  match c.operands with
  | some (name, true) => if operands.isEmpty then .error (.missingArgument name) else .ok ()
  | _ => .ok ()

/-- Checks that every required option is used. -/
def checkRequired (c : CommandSpec) (uses : List OptionUse) : Except UsageError Unit :=
  match c.options.find? fun o => o.required && (lastUse? uses o.name).isNone with
  | some o => .error (.missingOption o.spellings)
  | none => .ok ()

/-- Checks that a command without operands has none. -/
def checkUnexpected (c : CommandSpec) (operands : List String) : Except UsageError Unit :=
  match c.operands with
  | none => if c.leads || operands.isEmpty then .ok () else .error (.unexpected operands)
  | some _ => .ok ()

/-- All checks, in the order in which their errors are reported. -/
def check (c : CommandSpec) (h : Host) (uses : List OptionUse) (operands : List String) :
    Except Interruption Unit := do
  (c.usedOptions uses).forM (checkOption h uses)
  (c.checkOperands operands).mapError .wrong
  (c.checkRequired uses).mapError .wrong
  (c.checkUnexpected operands).mapError .wrong

/-- The name of the option that asks for help. -/
def helpName : String := "help"

/-- The name of the option that asks for the version. -/
def versionName : String := "version"

/-- The uses of options and the operands of a command. The first option that asks for help or for
the version goes before every check. -/
def accept (c : CommandSpec) (h : Host) (arguments : List String) :
    Except Interruption (List OptionUse × List String) :=
  match c.readArguments arguments with
  | .error e => .error (.wrong e)
  | .ok (uses, operands) =>
    match uses.find? fun u => u.name == helpName || u.name == versionName with
    | some u => .error (if u.name = helpName then .help else .version)
    | none => (c.check h uses operands).map fun _ => (uses, operands)

end CommandSpec

namespace OptionUse

/-- Whether a switch is on after some uses. -/
def isOn (uses : List OptionUse) (name : String) : Bool :=
  match CommandSpec.lastUse? uses name with
  | some use => use.on
  | none => false

/-- The value of an option after some uses. -/
def value? (uses : List OptionUse) (name : String) : Option String :=
  (CommandSpec.lastUse? uses name).map (·.value)

/-- All values of an option that may be used more than once. -/
def values (uses : List OptionUse) (name : String) : List String :=
  (uses.filter (·.name == name)).map (·.value)

end OptionUse

end TagSearch
