import LogicalBackup.Bytes

/-!
# The checksum of a gzip stream

The cyclic redundancy check of 32 bits: the remainder of a division of polynomials over two
elements, with the bits of each byte taken from the lowest.
-/

namespace LogicalBackup.Gzip

/-- One bit of the division. -/
def checksumBit (r : UInt32) : UInt32 :=
  if r &&& 1 = 1 then (r >>> 1) ^^^ 0xedb88320 else r >>> 1

/-- The eight bits of a byte, one after another. -/
def checksumByte (r : UInt32) (b : UInt8) : UInt32 :=
  Nat.repeat checksumBit 8 (r ^^^ b.toUInt32)

/-- The checksum of a byte string. -/
def checksum (b : Bytes) : UInt32 := b.foldl checksumByte 0xffffffff ^^^ 0xffffffff

end LogicalBackup.Gzip
