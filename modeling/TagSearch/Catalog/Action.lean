import TagSearch.Catalog.Notice
import TagSearch.Catalog.Session

/-!
# Actions

Everything that can be done with an open index, as data: an action changes the session and has a
reply. A session may also be left and entered again, in which case the index is stored in between.

* `Session.perform` carries out an action, `Session.run` a list of them.
* `IndexAction.notices` lists what is reported about an action.
-/

namespace TagSearch

/-- Something that is done with an open index. -/
inductive IndexAction where
  /-- Takes over the paths that a scan of `root` found. -/
  | build (root : String) (found : List String) (prune : Bool)
  | place (path : String)
  | markMissing (path : String)
  | rename (old new : String)
  | markDirMissing (dir : String)
  | renameDir (old new : String)
  | refreshTokens
  | applyChanges (events : List Change)
  | addTags (paths tags : List String)
  | removeTags (paths tags : List String)
  /-- Leaves the session normally and enters a new one. -/
  | reopen
  /-- Leaves the session by an error and enters a new one. -/
  | abort
  deriving DecidableEq, Repr

/-- The reply to an action. -/
inductive Reply where
  | done
  /-- Whether something was found to act on. -/
  | found (flag : Bool)
  | count (n : Nat)
  /-- The file that the action is about, as it is afterwards. -/
  | file (record : Option FileRecord)
  /-- The action is refused and nothing changes. -/
  | refused (e : TaggingError)
  deriving DecidableEq, Repr

namespace Session

/-- The session after an action that counts what it does, or the error that refuses it. -/
def counted (s : Session) : Except TaggingError (Session × Nat) → Session × Reply
  | .ok (s, n) => (s, .count n)
  | .error e => (s, .refused e)

/-- Carries out an action. -/
def perform (s : Session) : IndexAction → Session × Reply
  | .build root found prune => s.counted (.ok (s.build root found prune))
  | .place path =>
    let s := s.modify (·.place path)
    (s, .file (s.catalog.find? path))
  | .markMissing path => (s.modify (·.markMissing path), .found (s.catalog.find? path).isSome)
  | .rename old new =>
    let s := s.modify (·.rename old new)
    (s, .file (s.catalog.find? new))
  | .markDirMissing dir =>
    (s.modify (·.markDirMissing dir), .count (s.catalog.presentBelow dir).length)
  | .renameDir old new =>
    (s.modify (·.renameDir old new), .count (s.catalog.presentBelow old).length)
  | .refreshTokens => (s.modify (·.refreshTokens), .done)
  | .applyChanges events => s.counted (.ok (s.applyChanges events))
  | .addTags paths tags => s.counted (s.addTags paths tags)
  | .removeTags paths tags => s.counted (s.removeTags paths tags)
  | .reopen => (.start s.close, .done)
  | .abort => (.start s.abort, .done)

/-- The session after some actions. -/
def run (s : Session) (actions : List IndexAction) : Session :=
  actions.foldl (fun s a => (s.perform a).1) s

@[simp] theorem run_nil (s : Session) : s.run [] = s := rfl

@[simp] theorem run_cons (s : Session) (a : IndexAction) (actions : List IndexAction) :
    s.run (a :: actions) = (s.perform a).1.run actions := rfl

end Session

/-- The notices of an action on a catalog. -/
def IndexAction.notices (c : Catalog) : IndexAction → List Notice
  | .build root found prune => .scanning root :: c.scanNotices found prune
  | .place path => c.placeNotices path
  | .markMissing path => c.markMissingNotices path
  | .rename old new => c.renameNotices old new
  | .markDirMissing dir => c.markDirNotices dir
  | .renameDir old new => c.renameDirNotices old new
  | .applyChanges events => c.changeNotices events
  | .refreshTokens | .addTags _ _ | .removeTags _ _ | .reopen | .abort => []

end TagSearch
