import LogicalBackup.Storage.Tree

/-!
# Paths

A path is a text in which separators divide segments.  Its components say where it leads: from the
root or from the place where it is looked up, then up or into a directory at each step.  Two paths
are the same if their components are.
-/

namespace LogicalBackup

/-- The segments of a path between its separators. -/
def segments (path : String) : List String := (path.toList.splitOn '/').map String.ofList

/-- One step on the way that a path describes. -/
inductive PathComponent where
  /-- The root, at the start of a path that begins with a separator. -/
  | root
  /-- The place itself, at the start of a path whose first segment is a dot. -/
  | here
  /-- The directory above. -/
  | up
  | normal (name : String)
  deriving DecidableEq, Repr

/-- A name leads to the entry of that name. -/
instance : Coe String PathComponent := ⟨.normal⟩

namespace PathComponent

/-- Whether a component leads to an entry by its name. -/
def isNormal : PathComponent → Bool
  | normal _ => true
  | _ => false

/-- The component of a segment.  Nothing between two separators is no component, and neither is a
dot. -/
def ofSegment? (segment : String) : Option PathComponent :=
  if segment = "" ∨ segment = "." then none
  else if segment = ".." then some .up
  else some (.normal segment)

/-- Where a component leads from a path of the tree. -/
def follow (place : TreePath) : PathComponent → TreePath
  | root => []
  | here => place
  | up => place.dropLast
  | normal name => place ++ [name]

end PathComponent

/-- The components of a path. -/
def pathComponents (path : String) : List PathComponent :=
  let steps := (segments path).filterMap PathComponent.ofSegment?
  if path.toList.head? = some '/' then .root :: steps
  else if (segments path).head? = some "." then .here :: steps
  else steps

/-- The path `p` as it is seen from `base`.  A path from the root stays as it is. -/
def joinPath (base p : List PathComponent) : List PathComponent :=
  if p.head? = some .root ∨ base = [] then p else base ++ p.filter (· ≠ .here)

/-- Where a path leads in a tree. -/
def treePath (p : List PathComponent) : TreePath := p.foldl PathComponent.follow []

end LogicalBackup
