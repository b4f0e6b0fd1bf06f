import TagSearch.Disk.Locate

/-!
# Scans

A scan lists the files below a directory: every node that is no directory, at any depth, except the
files of the index itself. Links are listed and not followed; only the scanned directory may be
named through links.

* `Node.scan` lists the places below a directory.
* `Node.scanPaths` lists them as path texts, and refuses what is no directory.
-/

namespace TagSearch

/-- The name of the index file. The files beside it that belong to it have longer names. -/
def indexFileName : String := ".tag-commander.db"

/-- Whether a name is that of the index file or of a file that belongs to it. -/
def isIndexFile (name : String) : Bool := indexFileName.toList.isPrefixOf name.toList

/-- Why a directory cannot be scanned. -/
inductive ScanError where
  /-- There is no directory of the name. -/
  | notDirectory (path : String)
  /-- Nothing can be found out about the path. -/
  | unknown (fault : FileFault)
  deriving DecidableEq, Repr

/-- The wording of the error. -/
def ScanError.message : ScanError → String
  | .notDirectory path => "Cannot scan " ++ path ++ ": not a directory"
  | .unknown fault => fault.message

namespace Node

variable {α : Type}

/-- Whether a scan lists a node of a name. -/
def isListed (name : String) (n : Node α) : Bool := !n.isDir && !isIndexFile name

/-- The places below a directory that a scan lists. As in `descendants`, the names are texts and the
paths may have any length. -/
def scan (n : Node α) : List Place :=
  (n.descendants.filter fun (place, n) => isListed (place.getLast?.getD "") n).map (·.1)

/-- The directory that a path names, as the start of a scan. -/
def scanRoot (disk : Node α) (cwd : Place) (root : PathText) : Except ScanError (Node α) :=
  match disk.find? cwd root with
  | .ok (some (.dir es)) => .ok (.dir es)
  | .ok _ => .error (.notDirectory root.toText)
  | .error fault => .error (.unknown fault)

/-- The path texts, relative to a directory, of the files that a scan of it lists. -/
def scanPaths (disk : Node α) (cwd : Place) (root : PathText) : Except ScanError (List String) :=
  (disk.scanRoot cwd root).map fun n => n.scan.map joinNames

end Node

end TagSearch
