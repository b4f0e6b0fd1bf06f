import TagSearch.Disk.Locate

/-!
# Resolving paths

Resolving names a path for every path: names that lead nowhere are kept and links are followed as
far as they go. If a link is met while it is being followed, what was still to follow is taken as
it is written, so that such a path resolves as well unless the links are still on the way.

* `Route` is a way to a place; a link counts as met only if it is met on the same way.
* `Node.resolve` is the path that a path resolves to, or the reason why there is none.
-/

namespace TagSearch

/-- Why a path does not resolve. -/
inductive ResolveFault where
  /-- The path runs into links in a cycle. -/
  | cycle (path : PathText)
  /-- A name on the path holds the character NUL, which no name on a disk does. -/
  | nul
  deriving DecidableEq, Repr

/-- The wording of the reason. -/
def ResolveFault.message : ResolveFault → String
  | .cycle path => "Symlink loop from " ++ Text.display path.toText
  | .nul => "embedded null byte"

/-- A place, and how it was reached: from the top, or from the current directory after some steps
out of it. -/
structure Route where
  place : Place
  /-- The number of steps out of the current directory, if the way starts there. -/
  climbed? : Option Nat
  deriving DecidableEq, Repr

namespace Route

/-- The way to the top. -/
def top : Route := ⟨[], none⟩

/-- The way that a path starts with. -/
def start (cwd : Place) (p : PathText) : Route := if p.isAbsolute then top else ⟨cwd, some 0⟩

/-- The way to an entry of the directory that is reached. -/
def down (r : Route) (name : String) : Route := { r with place := r.place ++ [name] }

/-- The way to the directory above. At the top there is none. -/
def up (cwd : Place) (r : Route) : Route where
  place := r.place.dropLast
  climbed? := r.climbed?.map fun n =>
    if n < cwd.length ∧ r.place.length = cwd.length - n then n + 1 else n

/-- The way that the target of a link starts with, if the link lies in the directory reached. -/
def linkStart (r : Route) (target : String) : Route :=
  if target.toList.head? = some '/' then top else r

/-- The ways to a place. -/
def all (cwd place : Place) : List Route :=
  ⟨place, none⟩ :: (List.range (cwd.length + 1)).map fun n => ⟨place, some n⟩

end Route

/-- The path written by some names between slashes. -/
def PathText.ofNames (names : List String) : PathText := .ofText ("/".intercalate names)

/-- The path without any `..`, each of which takes back the name in front of it. -/
def PathText.collapse (p : PathText) : PathText :=
  let step (names : List String) (name : String) : List String :=
    if name = ".." then names.dropLast else names ++ [name]
  { p with parts := p.parts.foldl step [] }

namespace Node

variable {α : Type}

/-- The way to the place reached from `here` by some names. The links that may still be followed are
`open`; a link that is being followed is not among them. The error is the path of a link that was
met again, continued by the names that were still to follow. -/
def resolveFrom (disk : Node α) (cwd : Place) (opened : List Route) (here : Route) :
    List String → Except PathText Route
  | [] => .ok here
  | name :: rest =>
    if name = "" ∨ name = "." then disk.resolveFrom cwd opened here rest
    else if name = ".." then disk.resolveFrom cwd opened (here.up cwd) rest
    else
      match disk.get? (here.down name).place with
      | some (.link target) =>
        if here.down name ∈ opened then
          match disk.resolveFrom cwd (opened.erase (here.down name)) (here.linkStart target)
              (rawNames target) with
          | .ok there => disk.resolveFrom cwd opened there rest
          | .error p => .error (p.join (.ofNames rest))
        else .error ((PathText.ofPlace (here.down name).place).join (.ofNames rest))
      | _ => disk.resolveFrom cwd opened (here.down name) rest
termination_by names => (opened.length, names.length)
decreasing_by
  all_goals simp_wf
  · exact Prod.Lex.right _ (Nat.lt_succ_self _)
  · exact Prod.Lex.right _ (Nat.lt_succ_self _)
  · apply Prod.Lex.left
    have := List.length_erase_of_mem ‹here.down name ∈ opened›
    have := List.length_pos_of_mem ‹here.down name ∈ opened›
    omega
  · exact Prod.Lex.right _ (Nat.lt_succ_self _)
  · exact Prod.Lex.right _ (Nat.lt_succ_self _)

/-- The ways to all links of a disk. -/
def linkRoutes (disk : Node α) (cwd : Place) : List Route := disk.links.flatMap (Route.all cwd)

/-- The path that a path resolves to from the directory `cwd`. If it runs into links in a cycle,
the names that were still to follow are taken literally, and the path so reached is a cycle if the
links are still on the way to it. -/
def resolve (disk : Node α) (cwd : Place) (p : PathText) : Except ResolveFault PathText :=
  if p.parts.any fun name => name.toList.contains '\x00' then .error .nul
  else
    match disk.resolveFrom cwd (disk.linkRoutes cwd) (.start cwd p) p.parts with
    | .ok r => .ok (.ofPlace r.place)
    | .error p =>
      match disk.locate [] p.collapse.toText with
      | .error .tooManyLinks => .error (.cycle p.collapse)
      | _ => .ok p.collapse

end Node

end TagSearch
