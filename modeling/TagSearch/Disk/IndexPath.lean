import TagSearch.Disk.Resolve

/-!
# Paths in an index

A file is named in an index by its path below the indexed directory. A path that a user gives is
resolved first, links included.

* `Node.indexPath` is the name of a path in the index of a directory.
-/

namespace TagSearch

/-- Why a path has no name in an index. -/
inductive IndexPathError where
  /-- The path lies outside the indexed directory. -/
  | outside (path root : String)
  /-- The path has no place. -/
  | unresolved (fault : ResolveFault)
  deriving DecidableEq, Repr

/-- The wording of an index path error. -/
def IndexPathError.message : IndexPathError → String
  | .outside path root => path ++ " is not inside " ++ root
  | .unresolved fault => fault.message

/-- The name of a path in the index of the directory `root`. A relative path is used from the
current directory `cwd` if that lies in the indexed one, and from the indexed one otherwise. -/
def Node.indexPath {α : Type} (disk : Node α) (cwd : Place) (root path : PathText) :
    Except IndexPathError String :=
  let here := PathText.ofPlace cwd
  let base := if (here.relativeTo? root).isSome then here else root
  match disk.resolve cwd (base.join path) with
  | .error fault => .error (.unresolved fault)
  | .ok p =>
    match p.relativeTo? root with
    | some names => .ok (joinNames names)
    | none => .error (.outside path.toText root.toText)

end TagSearch
