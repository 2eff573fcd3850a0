import LogicalBackup.Gzip.Checksum
import LogicalBackup.Gzip.Inflate
import LogicalBackup.Source

/-!
# Gzip streams

A gzip stream is a sequence of members, each of which has a header, compressed data, and the
checksum and the length of what the data stand for.  `Gzip.decode` delivers the data of all members
up to the first fault; `Gzip.encode` makes a stream of one member, whose data are stored as they
are.
-/

namespace LogicalBackup.Gzip

/-- The fault of a stream that ends too early. -/
def endFault : IoFault := ⟨.unexpectedEof, "unexpected end of file"⟩

/-- The fault of a header that is none. -/
def headerFault : IoFault := ⟨.invalidInput, "invalid gzip header"⟩

/-- The fault of data that are not those of a compressed stream. -/
def dataFault : IoFault := ⟨.invalidInput, "corrupt deflate stream"⟩

/-- The fault of data of another checksum or length. -/
def checksumFault : IoFault :=
  ⟨.invalidInput, "corrupt gzip stream does not have a matching checksum"⟩

/-- The number that some bytes stand for, the lowest first. -/
def littleEndian (b : Bytes) : Nat := b.foldr (fun x n => x.toNat + 256 * n) 0

/-- Takes a number of bytes off the start of a byte string. -/
def takeBytes (n : Nat) (b : Bytes) : Except IoFault (Bytes × Bytes) :=
  if (b.take n).length = n then .ok (b.take n, b.drop n) else .error endFault

/-- The greatest length of a text in a header. -/
def maxTextLength : Nat := 65535

/-- Takes a text up to the zero that ends it, and the zero, off the start of a byte string. -/
def takeText (b : Bytes) : Except IoFault Bytes :=
  let text := b.takeWhile (· != 0)
  if maxTextLength < text.length then .error ⟨.invalidInput, "gzip header field too long"⟩
  else match b.drop text.length with
    | [] => .error endFault
    | _ :: rest => .ok rest

/-- Takes the header of a member off the start of a byte string. -/
def takeHeader (b : Bytes) : Except IoFault Bytes := do
  let (fixed, rest) ← takeBytes 10 b
  let flags := (fixed.getD 3 0).toNat
  if fixed.take 3 ≠ [0x1f, 0x8b, 8] || 32 ≤ flags then throw headerFault
  let rest ←
    if flags.testBit 2 then do
      let (size, rest) ← takeBytes 2 rest
      pure (← takeBytes (littleEndian size) rest).2
    else pure rest
  let rest ← if flags.testBit 3 then takeText rest else pure rest
  let rest ← if flags.testBit 4 then takeText rest else pure rest
  if flags.testBit 1 then
    let header := b.take (b.length - rest.length)
    let (found, rest) ← takeBytes 2 rest
    if littleEndian found ≠ (checksum header).toNat % 65536 then throw headerFault
    return rest
  else return rest

/-- The number of decoded bytes that are delivered at a time.  When the data prove corrupt, those
that were not delivered yet are lost. -/
def window : Nat := 32768

/-- Delivers the data of members, of which there are fewer than `fuel`. -/
def members : Nat → Bytes → Source
  | 0, _ => [.error endFault]
  | fuel + 1, b =>
    match takeHeader b with
    | .error fault => [.error fault]
    | .ok rest =>
      let (stop, output, position) := Inflate.run rest.toArray 0
      match stop with
      | some .truncated => [.ok output.toList, .error endFault]
      | some .corrupt =>
        [.ok (output.toList.take (output.size / window * window)), .error dataFault]
      | none =>
        let data := output.toList
        let rest := rest.drop position
        match takeBytes 8 rest with
        | .error fault => [.ok data, .error fault]
        | .ok (trailer, rest) =>
          if littleEndian (trailer.take 4) = (checksum data).toNat &&
              littleEndian (trailer.drop 4) = data.length % UInt32.size then
            .ok data :: if rest.isEmpty then [] else members fuel rest
          else [.ok data, .error checksumFault]

/-- Delivers the data of a gzip stream. -/
def decode (b : Bytes) : Source := members (b.length + 1) b

/-- A number in some bytes, the lowest first. -/
def toLittleEndian : Nat → Nat → Bytes
  | 0, _ => []
  | width + 1, n => UInt8.ofNat (n % 256) :: toLittleEndian width (n / 256)

/-- The blocks of plain bytes that hold `b`, of which there are at most `fuel` before the last. -/
def storedBlocks : Nat → Bytes → Bytes
  | 0, b => 1 :: toLittleEndian 2 b.length ++ toLittleEndian 2 (65535 - b.length) ++ b
  | fuel + 1, b =>
    if b.length ≤ 65535 then storedBlocks 0 b
    else 0 :: toLittleEndian 2 65535 ++ toLittleEndian 2 0 ++ b.take 65535 ++
      storedBlocks fuel (b.drop 65535)

/-- A gzip stream of one member. -/
def encode (b : Bytes) : Bytes :=
  [0x1f, 0x8b, 8, 0, 0, 0, 0, 0, 0, 0xff] ++ storedBlocks (b.length / 65535) b ++
    toLittleEndian 4 (checksum b).toNat ++ toLittleEndian 4 b.length

end LogicalBackup.Gzip
