import LogicalBackup.Gzip

/-!
# Stream transforms

What is done to the stream of a dump on its way to a file, and undone on its way back.
-/

namespace LogicalBackup

/-- The transforms of a stream. -/
inductive StreamTransform where
  /-- Bytes pass as they are. -/
  | identity
  | gzip
  deriving DecidableEq, Repr

namespace StreamTransform

/-- What is added to the names of files. -/
def extension : StreamTransform → String
  | identity => ""
  | gzip => ".gz"

/-- The stream as it is stored. -/
def wrap : StreamTransform → Bytes → Bytes
  | identity, b => b
  | gzip, b => Gzip.encode b

/-- The stream that a transformed stream stands for. -/
def unwrap : StreamTransform → Bytes → Source
  | identity, b => [.ok b]
  | gzip, b => Gzip.decode b

end StreamTransform

end LogicalBackup
