import TagSearch.Catalog.Search
import TagSearch.Command.Grammar
import TagSearch.Command.Outcome
import TagSearch.Console.Json
import TagSearch.Console.Table
import TagSearch.Expr.Display
import TagSearch.Expr.LevelOrder
import TagSearch.Query.Parse

/-!
# The command `search`

Searches the index of a directory, which is built first if it was never built, and prints the files
found as a table, as paths, or as JSON.

* `SearchRequest` is what was asked for, `CommandContext.search` carries it out.

The tags of the files found are read with one statement, which fails if there are more files than it
can bind. The statement of the query is taken to be one that the engine accepts.
-/

namespace TagSearch

/-- A search. -/
structure SearchRequest where
  /-- The words of the query. -/
  words : List String
  format : ResultFormat
  limit : Option Int
  pathMatch : Option PathMatch
  explain : Bool
  rescan : Bool
  deriving DecidableEq, Repr

namespace SearchRequest

/-- The search that options and operands ask for. -/
def ofUses (uses : List OptionUse) (operands : List String) : SearchRequest where
  words := operands
  format := ((OptionUse.value? uses "format").bind ResultFormat.ofName?).getD .table
  limit := (OptionUse.value? uses "limit").bind Text.readWhole?
  pathMatch := (OptionUse.value? uses "path-match").bind PathMatch.ofName?
  explain := OptionUse.isOn uses "explain"
  rescan := OptionUse.isOn uses "rescan"

/-- The text of the query. -/
def query (q : SearchRequest) : String := " ".intercalate q.words

end SearchRequest

/-! ## Results -/

/-- A file found, with its tags. -/
structure FoundFile where
  file : FileRecord
  tags : List String
  deriving DecidableEq, Repr

/-- Files with their tags, within a capacity. -/
def Catalog.withTagsOf? (c : Catalog) (capacity : Nat) (files : List FileRecord) :
    Option (List FoundFile) :=
  (c.tagsByFile? capacity (files.map (·.id))).map fun tags =>
    files.map fun f => ⟨f, (tags.lookup f.id).getD []⟩

/-- The wording of the error of a statement beyond the capacity. -/
def tooManyValues : String := "too many SQL variables"

/-- The files found as a table. -/
def foundTable (found : List FoundFile) : TextTable where
  columns := [⟨"Path", .left, false⟩, ⟨"Tags", .left, true⟩, ⟨"Present", .center, true⟩]
  rows := found.map fun f =>
    [f.file.path, ", ".intercalate f.tags, if f.file.present then "" else "missing"]

/-- The width of the table of results is limited. -/
def foundWidth : Nat := 1000

/-- The files found as JSON. -/
def foundJson (found : List FoundFile) : JsonValue :=
  .list (found.map fun f => .object [("id", .number f.file.id), ("path", .text f.file.path),
    ("tags", .list (f.tags.map .text)), ("present", .flag f.file.present)])

namespace Report

/-- Adds the files found for a query. -/
def found (r : Report) (format : ResultFormat) (query : String) (files : List FoundFile) : Report :=
  match format with
  | .table =>
    (r.info ("Search: " ++ query ++ " (" ++ toString files.length ++ " results)")).write
      ((foundTable files).render foundWidth)
  | .paths => r.addAll (fun r f => r.echo f.file.path) files
  | .json => r.echo (foundJson files).render

/-- Adds that nothing was found for a query. -/
def nothingFound (r : Report) (query : String) (e : Expr) (m : PathMatch) : Report :=
  let r := r.info ("No results for: " ++ query)
  if e.hasPathTerm && m == .whole then r.info "inpath: matches whole paths; try --path-match prefix"
  else r

/-- Adds why a query is none, with a mark below the place where it goes wrong. -/
def badQuery (r : Report) (query : String) (e : QueryError) : Report :=
  let r := r.fail ("Invalid search query: " ++ e.reason)
  match e.position? with
  | some position =>
    (r.note ("  " ++ query)).note
      ("  " ++ String.ofList (List.replicate position ' ') ++ "^")
  | none => r

end Report

/-! ## The command -/

namespace CommandContext

/-- The tags of an expression that no file carries, in increasing order. -/
def unusedTags (c : Catalog) (e : Expr) : List String :=
  (e.tagNames.mergeSort fun a b => decide (a ≤ b)).filter fun name => c.countTagged name == 0

/-- Builds the index if it is asked for or was never built. -/
def refresh (c : CommandContext) (s : IndexSession) (root : PathText) (rescan : Bool) (r : Report) :
    Except ScanError (IndexSession × Report) :=
  if rescan || s.session.catalog.state.isNone then do
    let (s, count, r) ← c.build s root false (r.info "Building index...")
    return (s, r.info ("Index built with " ++ toString count ++ " files"))
  else .ok (s, r)

/-- Searches an index that was opened. -/
def searchIndex (c : CommandContext) (q : SearchRequest) (root : PathText) (e : Expr)
    (m : PathMatch) (s : IndexSession) (r : Report) : Outcome :=
  match c.refresh s root q.rescan r with
  | .error fault => ⟨.indexError, r.indexError fault.message, s.abort⟩
  | .ok (s, r) =>
    let catalog := s.session.catalog
    let r := c.unlessQuiet r fun r =>
      r.addAll (fun r name => r.warn ("No files are tagged '" ++ name ++ "'"))
        (unusedTags catalog e)
    let limit := q.limit.orElse fun _ => c.settings.limit
    match catalog.search e m limit with
    | .error fault => ⟨.indexError, r.indexError fault.message, s.abort⟩
    | .ok [] => ⟨.success, r.nothingFound q.query e m, s.close⟩
    | .ok files =>
      match catalog.withTagsOf? c.capacity files with
      | some found => ⟨.success, r.found q.format q.query found, s.close⟩
      | none => ⟨.indexError, r.indexError tooManyValues, s.abort⟩

/-- The command `search`. -/
def search (c : CommandContext) (q : SearchRequest) (r : Report) : Outcome :=
  c.withRoot r fun root =>
    match parse q.query with
    | .error e => c.leave .refused (r.badQuery q.query e)
    | .ok e =>
      let m := q.pathMatch.getD c.settings.pathMatch
      let r := if q.explain then (r.say e.display).say (Predicate.ofExpr m e).render else r
      c.withIndex r root fun s => c.searchIndex q root e m s r

end CommandContext

end TagSearch
