import TagSearch.Command.Outcome
import TagSearch.Console.Json
import TagSearch.Console.Table

/-!
# The commands `tags add`, `tags remove` and `tags list`

The first two edit the tags of files given by their paths; each path is turned into the name of the
file in the index before the index is opened. The third one lists the tags in use.

* `CommandContext.editTags` adds or removes tags, `CommandContext.listTags` lists them.
-/

namespace TagSearch

/-- What is done with tags. -/
inductive TagEdit where
  | add
  | remove
  deriving DecidableEq, Repr

namespace TagEdit

/-- Edits tags in a session, within a capacity. -/
def perform? (edit : TagEdit) (capacity : Nat) (s : Session) (paths tags : List String) :
    Option (Except TaggingError (Session × Nat)) :=
  match edit with
  | .add => some (s.addTags paths tags)
  | .remove => s.removeTags? capacity paths tags

/-- What is reported about a number of tags. -/
def message (edit : TagEdit) (count : Nat) : String :=
  match edit with
  | .add => "Added " ++ toString count ++ " tag(s)"
  | .remove => "Removed " ++ toString count ++ " tag(s)"

/-- The outcome of a failed edit of tags. -/
def failure (edit : TagEdit) (s : IndexSession) (e : TaggingError) (r : Report) : Outcome :=
  let r := r.fail e.message
  match e, edit with
  | .blankTag _, _ => ⟨.refused, r, s.abort⟩
  | .notIndexed _, .add =>
    ⟨.indexError, r.hint "Run 'tag-commander rebuild-index' first", s.abort⟩
  | .notIndexed _, .remove => ⟨.indexError, r, s.abort⟩

end TagEdit

/-- The tags in use as a table. -/
def tagTable (rows : List (String × Nat)) : TextTable where
  columns := [⟨"Tag", .left, true⟩, ⟨"Files", .right, true⟩]
  rows := rows.map fun (name, count) => [name, toString count]

/-- The tags in use as JSON. -/
def tagJson (rows : List (String × Nat)) : JsonValue :=
  .list (rows.map fun (name, count) => .object [("tag", .text name), ("files", .number count)])

namespace CommandContext

/-- The outcome of a path that has no name in the index. -/
def pathFailure (c : CommandContext) (usageNote : String) (e : IndexPathError) (r : Report) :
    Outcome :=
  match e with
  | .outside _ _ =>
    c.leave .usageError
      (r.echoError (usageNote ++ "Error: Invalid value for PATHS: " ++ e.message))
  | .unresolved _ => c.leave .failed r

/-- The commands `tags add` and `tags remove`. -/
def editTags (c : CommandContext) (edit : TagEdit) (usageNote : String) (paths tags : List String)
    (r : Report) : Outcome :=
  c.withRoot r fun root =>
    match paths.mapM fun p => c.host.disk.indexPath c.host.cwd root (.ofText p) with
    | .error e => c.pathFailure usageNote e r
    | .ok names =>
      c.withEditedIndex r root fun s =>
        match edit.perform? c.capacity s.session names tags with
        | none => ⟨.failed, r, s.abort⟩
        | some (.error e) => edit.failure s e r
        | some (.ok (session, count)) =>
          ⟨.success, c.unlessQuiet r (·.success (edit.message count)),
            { s with session }.close⟩

/-- The command `tags list`. -/
def listTags (c : CommandContext) (json : Bool) (r : Report) : Outcome :=
  c.withRoot r fun root =>
    c.withEditedIndex r root fun s =>
      let rows := s.session.catalog.listTags
      let r :=
        if json then r.echo (tagJson rows).render
        else if rows.isEmpty then r.info "No tags yet"
        else r.write ((tagTable rows).render none)
      ⟨.success, r, s.close⟩

end CommandContext

end TagSearch
