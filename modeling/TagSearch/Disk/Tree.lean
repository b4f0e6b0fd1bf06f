/-!
# Disks

A disk is a tree of files, links and directories. Contents of files are of any type, and names are
texts: an entry whose name is no text in UTF-8 is not modelled. A place on a disk is the list of
names from the top to it, on which no link is followed.

* `Node.get?` finds what is at a place, `Node.put` and `Node.erase` change it.
* `Node.Proper` is what a disk promises: the names in a directory are distinct and can be told from
  the other parts of a path.
* `Node.walk` lists everything below a directory. It keeps a stack of directories to read and ends
  because what is on the stack gets smaller.
-/

namespace TagSearch

/-- The names from the top of a disk to a place on it. -/
abbrev Place := List String

/-- A file, a link, or a directory with its entries. -/
inductive Node (α : Type) where
  | file (content : α)
  | link (target : String)
  | dir (entries : List (String × Node α))
  deriving Inhabited

namespace Node

variable {α : Type}

/-- Whether this is a directory. -/
def isDir : Node α → Bool
  | .dir _ => true
  | _ => false

/-- The entries of a directory. -/
def entries? : Node α → Option (List (String × Node α))
  | .dir es => some es
  | _ => none

/-! ## Places -/

/-- What is at a place below this node, if every node on the way is a directory. -/
def get? : Node α → Place → Option (Node α)
  | n, [] => some n
  | .dir es, k :: rest => (es.lookup k).bind fun n => n.get? rest
  | _, _ :: _ => none

/-- The entries of a directory with one entry set. -/
def setEntry (k : String) (n : Node α) : List (String × Node α) → List (String × Node α)
  | [] => [(k, n)]
  | e :: es => if e.1 = k then (k, n) :: es else e :: setEntry k n es

/-- The node with another one at a place. The place must lie in a directory. -/
def put : Node α → Place → Node α → Option (Node α)
  | _, [], new => some new
  | .dir es, [k], new => some (.dir (setEntry k new es))
  | .dir es, k :: k' :: rest, new => do
    let n ← es.lookup k
    let n ← n.put (k' :: rest) new
    return .dir (setEntry k n es)
  | _, _ :: _, _ => none

/-- The node without what is at a place. -/
def erase : Node α → Place → Node α
  | n, [] => n
  | .dir es, [k] => .dir (es.filter (·.1 != k))
  | .dir es, k :: k' :: rest =>
    match es.lookup k with
    | some n => .dir (setEntry k (n.erase (k' :: rest)) es)
    | none => .dir es
  | n, _ :: _ => n

/-- A name that an entry of a directory can have. -/
def IsName (name : String) : Prop :=
  name ≠ "" ∧ name ≠ "." ∧ name ≠ ".." ∧ '/' ∉ name.toList ∧ '\x00' ∉ name.toList

/-- In every directory the names are distinct, and each can be one. -/
def Proper (n : Node α) : Prop :=
  ∀ place es, n.get? place = some (.dir es) → (es.map (·.1)).Nodup ∧ ∀ e ∈ es, IsName e.1

/-! ## Walks -/

/-- The directories among entries of the directory at a place, each with its place. -/
def subdirs (here : Place) (es : List (String × Node α)) : List (Place × List (String × Node α)) :=
  es.filterMap fun (k, n) => n.entries?.map fun sub => (here ++ [k], sub)

/-- The space that directories to read take. -/
noncomputable def stackSize : List (Place × List (String × Node α)) → Nat
  | [] => 0
  | d :: todo => sizeOf d.2 + stackSize todo

theorem stackSize_append (l₁ l₂ : List (Place × List (String × Node α))) :
    stackSize (l₁ ++ l₂) = stackSize l₁ + stackSize l₂ := by
  induction l₁ with
  | nil => simp [stackSize]
  | cons d l ih => simp [stackSize, ih, Nat.add_assoc]

theorem stackSize_subdirs_lt (here : Place) (es : List (String × Node α)) :
    stackSize (subdirs here es) < sizeOf es := by
  induction es with
  | nil => simp [subdirs, stackSize]
  | cons e es ih =>
    obtain ⟨k, n⟩ := e
    cases n <;> simp [subdirs, stackSize, entries?] at ih ⊢ <;> omega

/-- Everything below the directories of a stack, each node with its place. -/
def walk : List (Place × List (String × Node α)) → List (Place × Node α)
  | [] => []
  | (here, es) :: todo =>
    es.map (fun (k, n) => (here ++ [k], n)) ++ walk (subdirs here es ++ todo)
termination_by todo => stackSize todo
decreasing_by
  rw [stackSize_append, stackSize]
  exact Nat.add_lt_add_right (stackSize_subdirs_lt here es) _

/-- Everything below this node, each node with its place below it, however deep it lies. The bound on
the length of paths, beyond which `find?` finds nothing out, is left out. -/
def descendants (n : Node α) : List (Place × Node α) :=
  match n with
  | .dir es => walk [([], es)]
  | _ => []

/-- The places of the links below this node. -/
def links (n : Node α) : List Place :=
  n.descendants.filterMap fun
    | (place, .link _) => some place
    | _ => none

end Node

end TagSearch
