import TagSearch.Host
import TagSearch.Text.Shortest
import TagSearch.Text.Similar

/-!
# Options

What an option of a command takes: nothing, or a value of some kind. A value that is not of the kind
is refused, with a reason.

* `ValueKind.refuse?` is the reason to refuse a value, `ValueKind.failsOn` tells that none is found.
* `UsageError` is why a command line is wrong, with its wording.
-/

namespace TagSearch

/-- What the value of an option must be. -/
inductive ValueKind where
  /-- The option takes no value. -/
  | switch
  /-- Any text. -/
  | text
  /-- The path of an existing directory. -/
  | directory
  /-- One of some words. -/
  | choice (words : List String)
  /-- A whole number that is at least one. -/
  | count
  /-- A decimal number that is at least a tenth. -/
  | seconds
  deriving DecidableEq, Repr

/-- An option of a command. -/
structure OptionSpec where
  /-- The name under which its uses are looked up. -/
  name : String
  /-- How it is written, in the order in which messages list it. -/
  spellings : List String
  kind : ValueKind
  /-- How a switch is turned off. -/
  opposites : List String := []
  required : Bool := false
  deriving DecidableEq, Repr

/-- Why a command line is wrong. -/
inductive UsageError where
  /-- An option that does not exist, and similar ones that do. -/
  | noSuchOption (spelling : String) (similar : List String)
  | needsArgument (spelling : String)
  | takesNoValue (spelling : String)
  /-- A command that does not exist, and similar ones that do. -/
  | noSuchCommand (name : String) (similar : List String)
  | missingCommand
  | missingArgument (operand : String)
  | missingOption (spellings : List String)
  | invalidValue (parameter : String) (reason : String)
  | unexpected (arguments : List String)
  deriving DecidableEq, Repr

/-- The spellings of an option as messages list them. -/
def listSpellings (spellings : List String) : String :=
  " / ".intercalate (spellings.map fun s => "'" ++ s ++ "'")

/-- What is proposed in place of a word that does not exist. -/
def proposal : List String → String
  | [] => ""
  | [word] => " Did you mean " ++ Text.display word ++ "?"
  | words =>
    let sorted := words.mergeSort fun a b => decide (a ≤ b)
    " (Did you mean one of: " ++ ", ".intercalate (sorted.map Text.display) ++ "?)"

/-- The wording of a usage error. -/
def UsageError.message : UsageError → String
  | .noSuchOption spelling similar =>
    "No such option " ++ Text.display spelling ++ "." ++ proposal similar
  | .needsArgument spelling => "Option " ++ Text.display spelling ++ " requires an argument."
  | .takesNoValue spelling => "Option " ++ Text.display spelling ++ " does not take a value."
  | .noSuchCommand name similar =>
    "No such command " ++ Text.display name ++ "." ++ proposal similar
  | .missingCommand => "Missing command."
  | .missingArgument operand => "Missing argument '" ++ operand ++ "'."
  | .missingOption spellings => "Missing option " ++ listSpellings spellings ++ "."
  | .invalidValue parameter reason => "Invalid value for " ++ parameter ++ ": " ++ reason
  | .unexpected [argument] => "Got unexpected extra argument (" ++ argument ++ ")"
  | .unexpected arguments => "Got unexpected extra arguments (" ++ " ".intercalate arguments ++ ")"

/-! ## Kinds of values -/

/-- The least number of seconds, a tenth. -/
def leastSeconds : Text.Binary := .round 1 10

/-- The text of a decimal number if it is less than the least number of seconds. -/
def tooFewSeconds? : Text.Decimal → Option String
  | .notANumber => none
  | .infinite negative => if negative then some "-inf" else none
  | .finite negative digits exponent =>
    let x := Text.Binary.ofDecimal digits exponent
    if negative then some ("-" ++ String.ofList x.toText)
    else if x.lessThan leastSeconds then some (String.ofList x.toText)
    else none

namespace ValueKind

/-- Whether an option of the kind takes a value. -/
def takesValue (kind : ValueKind) : Bool := kind != .switch

/-- Whether looking at a value fails: no disk can be asked for a name that holds NUL. -/
def failsOn (kind : ValueKind) (value : String) : Bool :=
  kind == .directory && value.toList.contains '\x00'

/-- Why a value is refused, if it is. -/
def refuse? (h : Host) (value : String) : ValueKind → Option String
  | .switch => none
  | .text => none
  | .directory =>
    match h.disk.stat h.cwd value with
    | .error _ => some ("Directory " ++ Text.display value ++ " does not exist.")
    | .ok n => if n.isDir then none else some ("Directory " ++ Text.display value ++ " is a file.")
  | .choice words =>
    if words.contains value then none
    else
      some (Text.display value ++ " is not one of " ++
        ", ".intercalate (words.map Text.display) ++ ".")
  | .count =>
    match Text.readWhole? value with
    | none => some (Text.display value ++ " is not a valid integer range.")
    | some n => if 1 ≤ n then none else some (toString n ++ " is not in the range x>=1.")
  | .seconds =>
    match Text.readDecimal? value with
    | none => some (Text.display value ++ " is not a valid float range.")
    | some x => (tooFewSeconds? x).map (· ++ " is not in the range x>=0.1.")

end ValueKind

end TagSearch
