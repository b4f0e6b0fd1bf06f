import TagSearch.Disk.Scan
import TagSearch.Host

/-!
# Index files

The index of a directory is a file in it, or where a link of its name leads. It is opened for a
session and written back when the session ends. Other files lie beside it while it is in use, and
scans see them. A file that holds no index is replaced by an empty one.

* `Companion` is a file beside an index, `Companion.blocks` tells when one is in the way.
* `Host.openIndex` starts a session on the index of a directory.
* `IndexSession.close` and `IndexSession.abort` end it.
-/

namespace TagSearch

/-! ## Companions -/

/-- The files that can lie beside an index. -/
inductive Companion where
  /-- The record of a change in progress, as long as the index is new. -/
  | journal
  /-- The changes that were not yet taken over into the index. -/
  | log
  /-- The memory that sessions on the same index share. -/
  | memory
  deriving DecidableEq, Repr

namespace Companion

/-- What the name of a companion has behind the name of the index. -/
def suffix : Companion → String
  | .journal => "-journal"
  | .log => "-wal"
  | .memory => "-shm"

/-- The place of a companion of the index at a place. -/
def place (c : Companion) (index : Place) : Place :=
  index.dropLast ++ [index.getLast?.getD "" ++ c.suffix]

/-- Whether a link in the place of a companion prevents that the index is opened. Beside a new index
a journal and a log are replaced by files if they lead somewhere; beside an index that exists only a
journal that leads nowhere is overlooked. A link to an empty file leads nowhere. -/
def blocksAsLink (isNew leads : Bool) : Companion → Bool
  | .journal => isNew != leads
  | .log => !(isNew && leads)
  | .memory => true

/-- Whether what is in the place of a companion prevents that the index is opened. A file never
does, a directory always does, and a link depends on where it leads. -/
def blocks (disk : Node Content) (index : Place) (isNew : Bool) (c : Companion) : Bool :=
  match disk.get? (c.place index) with
  | none | some (.file _) => false
  | some (.dir _) => true
  | some (.link _) =>
    match disk.stat [] (PathText.ofPlace (c.place index)).toText with
    | .ok (.file (.text "")) | .error _ => c.blocksAsLink isNew false
    | .ok _ => c.blocksAsLink isNew true

/-- Whether a journal beside an index that exists stays: a file does that is empty or starts with
NUL, since it records nothing, and so does a link that was overlooked. -/
def isIdle : Node Content → Bool
  | .file (.text s) => s.isEmpty || s.toList.head? == some '\x00'
  | .link _ => true
  | _ => false

end Companion

/-! ## Sessions on index files -/

/-- An index that cannot be opened, because something is in its place or in that of a companion. -/
structure IndexUnavailable where
  root : PathText
  deriving DecidableEq, Repr

/-- The wording of the error. -/
def IndexUnavailable.message (_ : IndexUnavailable) : String := "unable to open database file"

/-- A session on an index file. -/
structure IndexSession where
  session : Session
  /-- The place of the file. -/
  place : Place
  /-- The host while the session lasts, with the companions of the index on its disk. -/
  host : Host

/-- Why an attempt to open an index fails. -/
inductive OpenFault where
  | unavailable
  /-- The file holds no index. -/
  | notAnIndex
  deriving DecidableEq, Repr

namespace Host

/-- The path of the index of a directory. It ends in front of the first question mark. -/
def indexFile (root : PathText) : PathText :=
  .ofText (String.ofList ((root.join (.ofText indexFileName)).toText.toList.takeWhile (· != '?')))

/-- Whether the path to an index has more bytes than it can have with those of its companions. -/
def isIndexPathTooLong (place : Place) : Bool :=
  504 < (PathText.ofPlace place).toText.utf8ByteSize

/-- The host with the companions that an open index has. -/
def withCompanions (h : Host) (place : Place) (isNew : Bool) : Host :=
  let journal := Companion.journal.place place
  let keeps := !isNew && ((h.disk.get? journal).map Companion.isIdle).getD false
  let disk := if keeps then h.disk else h.disk.erase journal
  let add (disk : Node Content) (c : Companion) : Node Content :=
    (disk.put (c.place place) (.file (.text ""))).getD disk
  { h with disk := [Companion.log, .memory].foldl add disk }

/-- Starts a session on the index at a place. -/
def enter (h : Host) (place : Place) (session : Session) (isNew : Bool) :
    Except OpenFault IndexSession :=
  if [Companion.journal, .log, .memory].any (·.blocks h.disk place isNew) then .error .unavailable
  else
    match h.disk.put place (.file (.index session.close)) with
    | some disk => .ok ⟨session, place, { h with disk }.withCompanions place isNew⟩
    | none => .error .unavailable

/-- Starts a session on the index of a directory, on a new index if there is no file. -/
def tryOpen (h : Host) (root : PathText) : Except OpenFault IndexSession :=
  match h.disk.resolveFrom h.cwd (h.disk.linkRoutes h.cwd) .top (indexFile root).parts with
  | .error _ => .error .unavailable
  | .ok r =>
    if isIndexPathTooLong r.place then .error .unavailable
    else
      match h.disk.get? r.place with
      | some (.file (.index s)) => h.enter r.place (.start s) false
      | none | some (.file (.text "")) => h.enter r.place .fresh true
      | some (.file _) => .error .notAnIndex
      | some _ => .error .unavailable

/-- The host without the index file of a directory. If that is a link, the link is removed. -/
def removeIndex (h : Host) (root : PathText) : Host :=
  let file := root.join (.ofText indexFileName)
  match h.disk.find? h.cwd file with
  | .ok (some (.file _)) => { h with disk := (h.disk.removeAt h.cwd file).toOption.getD h.disk }
  | _ => h

/-- Starts a session on the index of a directory. A file that holds no index is removed first. -/
def openIndex (h : Host) (root : PathText) : Except IndexUnavailable IndexSession :=
  match h.tryOpen root with
  | .ok s => .ok s
  | .error .unavailable => .error ⟨root⟩
  | .error .notAnIndex => ((h.removeIndex root).tryOpen root).mapError fun _ => ⟨root⟩

end Host

namespace IndexSession

/-- The host after a session that leaves an index. -/
def leave (s : IndexSession) (index : StoredIndex) : Host :=
  let h := s.host
  let disk := [Companion.log, .memory].foldl (fun disk c => disk.erase (c.place s.place)) h.disk
  { h with disk := (disk.put s.place (.file (.index index))).getD disk }

/-- The host after a session that ended normally. -/
def close (s : IndexSession) : Host := s.leave s.session.close

/-- The host after a session that ended by an error. -/
def abort (s : IndexSession) : Host := s.leave s.session.abort

end IndexSession

end TagSearch
