import TagSearch.Disk.IndexPath
import TagSearch.Host
import TagSearch.Like
import TagSearch.Toml.Document
import TagSearch.Toml.Writer

/-!
# Settings

What a user can set: the directory to search, whether output is coloured, how path patterns match,
and a limit for the number of results. The settings of a document stand in three sections; a key or
section that is absent leaves the default.

* `Settings.ofTable` reads the settings of a document, in the order of the sections.
* `Settings.sections` writes settings, leaving out what is the default of a search.
-/

namespace TagSearch

/-- The settings. -/
structure Settings where
  /-- The directory whose files are indexed. -/
  root : PathText
  colored : Bool
  pathMatch : PathMatch
  /-- The largest number of results, if there is one. -/
  limit : Option Int
  /-- The file that the settings come from, if there is one. -/
  source : Option PathText
  deriving DecidableEq, Repr

/-- Why a section cannot be searched for a key. -/
inductive SectionFault where
  /-- The section is a value without parts. -/
  | noParts (sort : String)
  /-- The section is a text that contains the key. -/
  | text
  /-- The section is an array that contains the key. -/
  | array
  deriving DecidableEq, Repr

/-- Why settings cannot be loaded. -/
inductive SettingsError where
  /-- The path of the file does not resolve. -/
  | path (fault : PathFault)
  /-- The file cannot be opened. -/
  | file (fault : FileFault)
  /-- The file holds no text. -/
  | notText
  /-- The text breaks the rules of documents. -/
  | malformed (source : PathText)
  /-- A number of the document is too long. -/
  | tooManyDigits (count : Nat)
  /-- Too many values of the document are nested. -/
  | tooDeep
  /-- A section is no table. -/
  | notTable (fault : SectionFault)
  /-- A value is not of the kind that its key requires. -/
  | invalid (key : String) (requirement : String)
  deriving DecidableEq, Repr

/-- The wording of a section fault. -/
def SectionFault.message : SectionFault → String
  | .noParts sort => "argument of type '" ++ sort ++ "' is not iterable"
  | .text => "string indices must be integers, not 'str'"
  | .array => "list indices must be integers or slices, not str"

/-- The wording of a settings error. -/
def SettingsError.message : SettingsError → String
  | .path fault => fault.message
  | .file fault => fault.message
  | .notText => "the config file is not text in UTF-8"
  | .malformed source => "Invalid config at " ++ source.toText ++ ": malformed document"
  | .tooManyDigits count =>
    "Exceeds the limit (" ++ toString Toml.maxDigits ++
      " digits) for integer string conversion: value has " ++ toString count ++
      " digits; use sys.set_int_max_str_digits() to increase the limit"
  | .tooDeep => "maximum recursion depth exceeded"
  | .notTable fault => fault.message
  | .invalid key requirement => "Invalid config value for '" ++ key ++ "': " ++ requirement

/-! ## Reading -/

/-- The word for the sort of a value, as in messages about sections. -/
def Toml.Value.sort : Toml.Value → String
  | .string _ => "str"
  | .integer _ => "int"
  | .real _ => "float"
  | .boolean _ => "bool"
  | .moment .dateTime _ => "datetime.datetime"
  | .moment .date _ => "datetime.date"
  | .moment .time _ => "datetime.time"
  | .array _ => "list"
  | .table _ => "dict"

/-- Whether a text stands somewhere in another one. -/
def isInfix (part : List Char) : List Char → Bool
  | [] => part.isEmpty
  | c :: s => part.isPrefixOf (c :: s) || isInfix part s

/-- The value of a key in a section. A section that is a text or an array has no values, but must
not contain the key. -/
def sectionEntry? (key : String) : Toml.Value → Except SettingsError (Option Toml.Value)
  | .table entries => .ok (entries.lookup key)
  | .string s => if isInfix key.toList s.toList then .error (.notTable .text) else .ok none
  | .array items =>
    if items.any fun | .string s => s == key | _ => false then .error (.notTable .array)
    else .ok none
  | v => .error (.notTable (.noParts v.sort))

/-- The value of a key in a section of a document. -/
def entry? (t : Toml.Table) (name key : String) : Except SettingsError (Option Toml.Value) :=
  sectionEntry? key ((t.lookup name).getD (.table []))

/-- The names of the modes, as in the message that lists them. -/
def pathMatchNames : String := ", ".intercalate (PathMatch.all.map PathMatch.name)

/-- A setting read from its value, or the default if there is none. -/
def setting {α : Type} (name key requirement : String) (read : Toml.Value → Option α)
    (default : α) (t : Toml.Table) : Except SettingsError α := do
  match ← entry? t name key with
  | none => return default
  | some v =>
    match read v with
    | some a => return a
    | none => .error (.invalid (name ++ "." ++ key) requirement)

/-- The text of a value that is one. -/
def Toml.Value.string? : Toml.Value → Option String
  | .string s => some s
  | _ => none

/-- The truth value of a value that is one. -/
def Toml.Value.boolean? : Toml.Value → Option Bool
  | .boolean b => some b
  | _ => none

/-- The number of a value that is a whole one. -/
def Toml.Value.integer? : Toml.Value → Option Int
  | .integer n => some n
  | _ => none

namespace Settings

/-- The settings of a document that says nothing. -/
def default (cwd : Place) : Settings := ⟨.ofPlace cwd, true, .whole, none, none⟩

/-- The settings of a document. The first value that is not as required is an error. -/
def ofTable (base : Settings) (t : Toml.Table) : Except SettingsError Settings := do
  let root ← setting "paths" "root" "must be a string path"
    (fun v => v.string?.map .ofText) base.root t
  let colored ← setting "display" "colored_output" "must be a boolean"
    Toml.Value.boolean? base.colored t
  let pathMatch ← setting "search" "path_match" ("must be one of " ++ pathMatchNames)
    (fun v => v.string?.bind PathMatch.ofName?) base.pathMatch t
  let limit ← setting "search" "default_limit" "must be an integer"
    (fun v => v.integer?.map some) base.limit t
  return { base with root, colored, pathMatch, limit }

/-! ## Writing -/

/-- The entries about searches that are not the default. -/
def searchEntries (s : Settings) : List (String × Toml.Scalar) :=
  (if s.pathMatch = .whole then [] else [("path_match", .string s.pathMatch.name)]) ++
    (s.limit.map fun n => ("default_limit", Toml.Scalar.integer n)).toList

/-- The sections of a document with some settings. -/
def sections (s : Settings) : List Toml.Section :=
  [⟨"paths", [("root", .string s.root.toText)]⟩,
    ⟨"display", [("colored_output", .boolean s.colored)]⟩] ++
    if s.searchEntries.isEmpty then [] else [⟨"search", s.searchEntries⟩]

/-- The text of a document with some settings. -/
def toText (s : Settings) : String := Toml.writeDocument s.sections

end Settings

end TagSearch
