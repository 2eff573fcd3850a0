import LogicalBackup.Fault
import LogicalBackup.Storage.Path
import LogicalBackup.Text.Quoted

/-!
# Local storage

Dump files are stored under names below a directory.  A name is a path from that directory, of which
`resolve` accepts those that have names for components and nothing else.  `push` and `pull` copy
files to and from the storage.
-/

namespace LogicalBackup

/-- A storage below a directory, given by the components of its path. -/
structure LocalStorage where
  root : List PathComponent
  deriving DecidableEq, Repr

namespace LocalStorage

/-- Whether each component of a name is a name. -/
def isPlain (name : String) : Bool :=
  !name.isEmpty && (pathComponents name).all PathComponent.isNormal

/-- The fault of a name that is no path below the directory. -/
def invalidName (name : String) : Fault := .storage ("invalid object name: " ++ Text.quoted name)

/-- The path of the file that is stored under a name. -/
def resolve (storage : LocalStorage) (name : String) : Except Fault (List PathComponent) :=
  if isPlain name then .ok (joinPath storage.root (pathComponents name))
  else .error (invalidName name)

/-- The path of a stored file as a file operation is given it. -/
def filePath (storage : LocalStorage) (name : String) : Except Fault Tree.FilePath :=
  (storage.resolve name).map fun path =>
    { path := treePath path
      endsInSeparator := (segments name).getLast? = some ""
      endsInDot := ((segments name).filter (!·.isEmpty)).getLast? = some "." }

/-- The fault of a copy that failed, where `verb` says which way it went. -/
def copyFault (verb name : String) (fault : FileFault) : Fault :=
  .storage ("failed to " ++ verb ++ " " ++ name ++ ": " ++ fault.message)

/-- Stores a file under a name.  The directories of the name are made first. -/
def push (storage : LocalStorage) (t : Tree) (name : String) (file : Tree.FilePath) :
    Except Fault Nat × Tree :=
  match storage.filePath name with
  | .error fault => (.error fault, t)
  | .ok target =>
    match t.makeDirectories target.path.dropLast with
    | (.error fault, t) => (.error (.io ⟨.other, fault.message⟩), t)
    | (.ok (), t) =>
      let (result, t) := t.copy file target
      (result.mapError (copyFault "push" name), t)

/-- Fetches the file that is stored under a name. -/
def pull (storage : LocalStorage) (t : Tree) (name : String) (file : Tree.FilePath) :
    Except Fault Nat × Tree :=
  match storage.filePath name with
  | .error fault => (.error fault, t)
  | .ok source =>
    let (result, t) := t.copy source file
    (result.mapError (copyFault "pull" name), t)

end LocalStorage

end LogicalBackup
