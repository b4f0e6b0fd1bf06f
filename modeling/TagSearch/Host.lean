import TagSearch.Catalog.Session
import TagSearch.Disk.Edit
import TagSearch.Disk.IndexPath

/-!
# Hosts

The machine that a command runs on: its disk, the current directory, and the home directories of its
users. A file on it is a text, bytes that are no text, or an index.

* `Host.expandHome` puts a home directory in front of a path that starts with a tilde.
* `Host.resolve` resolves a path, `Host.write` writes a file with the directories around it.
-/

namespace TagSearch

/-- What a file holds. -/
inductive Content where
  | text (s : String)
  /-- Bytes that are no text in UTF-8. -/
  | binary (bytes : List UInt8)
  | index (s : StoredIndex)
  deriving Inhabited

/-- The content of a file with some bytes. -/
def Content.ofBytes (bytes : List UInt8) : Content :=
  match String.fromUTF8? ⟨bytes.toArray⟩ with
  | some s => .text s
  | none => .binary bytes

/-- The machine that a command runs on. -/
structure Host where
  disk : Node Content
  /-- The current directory. -/
  cwd : Place
  /-- The home directory of the user who runs the command. -/
  home : String
  /-- The home directories of other users. -/
  users : List (String × String)

/-- Why a path that may start with a tilde does not resolve. -/
inductive PathFault where
  /-- The path starts with a tilde and the name of an unknown user. -/
  | unknownUser
  /-- The path does not resolve. -/
  | unresolved (fault : ResolveFault)
  deriving DecidableEq, Repr

/-- The wording of a path fault. -/
def PathFault.message : PathFault → String
  | .unknownUser => "Could not determine home directory."
  | .unresolved fault => fault.message

namespace Host

/-- The home directory that a name with a tilde in front stands for. -/
def homeOf (h : Host) (name : String) : Option PathText :=
  if name = "~" then some (.ofText h.home)
  else (h.users.lookup (String.ofList (name.toList.drop 1))).map .ofText

/-- A path with a home directory for its first name, if that starts with a tilde. -/
def expandHome (h : Host) (p : PathText) : Except PathFault PathText :=
  match p.anchor, p.parts with
  | .none, name :: rest =>
    if name.toList.head? = some '~' then
      match h.homeOf name with
      | some dir => .ok ⟨dir.anchor, dir.parts ++ rest⟩
      | none => .error .unknownUser
    else .ok p
  | _, _ => .ok p

/-- The path that a path resolves to, after its tilde was expanded. -/
def resolve (h : Host) (p : PathText) : Except PathFault PathText := do
  let p ← h.expandHome p
  (h.disk.resolve h.cwd p).mapError .unresolved

/-- Writes a file, and creates the directories on the way to it. An error comes with the host on
which the directories made so far stay. -/
def write (h : Host) (p : PathText) (content : Content) : Except (Host × FileFault) Host :=
  match h.disk.writeAt h.cwd p content false with
  | .ok disk => .ok { h with disk }
  | .error (disk, e) => .error ({ h with disk }, e)

end Host

end TagSearch
