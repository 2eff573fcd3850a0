import LogicalBackup.Bytes

/-!
# File trees

A tree of directories and files, as the paths that have an entry.  Paths are looked up from the root
on, so that a missing directory and a file in the place of one are told apart.
-/

namespace LogicalBackup

/-- A path from the root of a tree. -/
abbrev TreePath := List String

/-- What can stand at a path. -/
inductive TreeEntry where
  | directory
  | file (content : Bytes)
  deriving DecidableEq, Repr

/-- Why a file operation fails. -/
inductive FileFault where
  | notFound
  | exists
  | notDirectory
  | isDirectory
  | nameTooLong
  | nulByte
  | notRegular
  deriving DecidableEq, Repr

/-- The text of a fault, in the words of the system. -/
def FileFault.message : FileFault → String
  | notFound => "No such file or directory (os error 2)"
  | «exists» => "File exists (os error 17)"
  | notDirectory => "Not a directory (os error 20)"
  | isDirectory => "Is a directory (os error 21)"
  | nameTooLong => "File name too long (os error 36)"
  | nulByte => "file name contained an unexpected NUL byte"
  | notRegular => "the source path is neither a regular file nor a symlink to a regular file"

/-- A tree, by the entries of its paths.  The first entry of a path counts. -/
structure Tree where
  entries : List (TreePath × TreeEntry) := []
  deriving DecidableEq, Repr

namespace Tree

/-- What stands at a path.  The root is a directory. -/
def entry? (t : Tree) (path : TreePath) : Option TreeEntry :=
  if path.isEmpty then some .directory else t.entries.lookup path

/-- Puts an entry at a path, in place of what stands there. -/
def put (t : Tree) (path : TreePath) (entry : TreeEntry) : Tree :=
  { entries := (path, entry) :: t.entries.filter (·.1 != path) }

/-- The greatest length of a name in bytes. -/
def maxNameLength : Nat := 255

/-- Whether a name holds the byte that ends names. -/
def hasNul (path : TreePath) : Bool := path.any fun s => s.toList.contains (Char.ofNat 0)

/-- Looks a path up below `base`, which must be a directory on the way. -/
def walk (t : Tree) (base : TreePath) : TreePath → Except FileFault (Option TreeEntry)
  | [] => .ok (t.entry? base)
  | name :: rest =>
    match t.entry? base with
    | none => .error .notFound
    | some (.file _) => .error .notDirectory
    | some .directory =>
      if maxNameLength < (utf8 name).length then .error .nameTooLong
      else t.walk (base ++ [name]) rest

/-- What stands at a path, to which directories must lead. -/
def find (t : Tree) (path : TreePath) : Except FileFault (Option TreeEntry) :=
  if hasNul path then .error .nulByte else t.walk [] path

/-- Makes the directories of a path below `base`, as far as they are missing. -/
def makeBelow (t : Tree) (base : TreePath) : TreePath → Except FileFault Unit × Tree
  | [] => (.ok (), t)
  | name :: rest =>
    if maxNameLength < (utf8 name).length then (.error .nameTooLong, t)
    else
      let path := base ++ [name]
      match t.entry? path with
      | none => (t.put path .directory).makeBelow path rest
      | some .directory => t.makeBelow path rest
      | some (.file _) => (.error (if rest.isEmpty then .exists else .notDirectory), t)

/-- Makes the directories of a path, as far as they are missing. -/
def makeDirectories (t : Tree) (path : TreePath) : Except FileFault Unit × Tree :=
  if hasNul path then (.error .nulByte, t) else t.makeBelow [] path

/-- A path as a file operation is given it: one that ends in a separator, or in a dot, can only mean
a directory. -/
structure FilePath where
  path : TreePath
  endsInSeparator : Bool := false
  endsInDot : Bool := false
  deriving DecidableEq, Repr

/-- Reads a file. -/
def read (t : Tree) (p : FilePath) : Except FileFault Bytes := do
  match ← t.find p.path with
  | none => throw .notFound
  | some .directory => throw .notRegular
  | some (.file content) =>
    if p.endsInSeparator || p.endsInDot then throw .notDirectory else return content

/-- Writes a file, which is made if it is missing. -/
def write (t : Tree) (p : FilePath) (content : Bytes) : Except FileFault Tree := do
  match ← t.find p.path with
  | some .directory => throw .isDirectory
  | found =>
    if p.endsInDot then throw (if found.isNone then .notFound else .notDirectory)
    if p.endsInSeparator then throw .isDirectory
    return t.put p.path (.file content)

/-- Copies a file.  The result is its length. -/
def copy (t : Tree) (source target : FilePath) : Except FileFault Nat × Tree :=
  match t.read source with
  | .error fault => (.error fault, t)
  | .ok content =>
    match t.write target content with
    | .error fault => (.error fault, t)
    | .ok t => (.ok content.length, t)

/-- The names of everything below a directory, relative to it, in ascending order.  Names of
directories end in a separator. -/
def list (t : Tree) (base : TreePath) : List String :=
  let below := t.entries.filterMap fun (path, entry) =>
    if base.isPrefixOf path && base.length < path.length then
      let name := String.intercalate "/" (path.drop base.length)
      some (match entry with
        | .directory => name ++ "/"
        | .file _ => name)
    else none
  below.mergeSort fun a b => a ≤ b

end Tree

end LogicalBackup
