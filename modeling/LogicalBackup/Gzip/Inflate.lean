import LogicalBackup.Bytes

/-!
# Inflating

The decoder of compressed data: blocks of literal bytes and of copies of bytes that came before,
written with prefix codes that are fixed or stand at the start of a block.  Bits are taken from the
lowest of each byte.  What was decoded before the data stop short or prove corrupt is kept.
-/

namespace LogicalBackup.Inflate

/-- Why decoding ends before the stream does. -/
inductive Stop where
  /-- The data end too early. -/
  | truncated
  /-- The data are not those of a compressed stream. -/
  | corrupt
  deriving DecidableEq, Repr

/-- The data, and how far they are decoded. -/
structure State where
  input : Array UInt8
  /-- The number of bits taken from the input. -/
  position : Nat
  output : Array UInt8 := #[]

/-- A step of the decoder. -/
abbrev Decoder (α : Type) : Type := ExceptT Stop (StateM State) α

/-- Takes one bit. -/
def bit : Decoder Nat := do
  let position := (← get).position
  match (← get).input[position / 8]? with
  | none => throw .truncated
  | some b =>
    modify fun s => { s with position := position + 1 }
    return b.toNat >>> (position % 8) % 2

/-- Takes a number of `n` bits, the lowest first. -/
def bits : Nat → Decoder Nat
  | 0 => return 0
  | n + 1 => do
    let low ← bit
    return low + 2 * (← bits n)

/-- Passes over the bits up to the next whole byte. -/
def align : Decoder Unit := modify fun s => { s with position := (s.position + 7) / 8 * 8 }

/-- Puts a byte out. -/
def emit (b : UInt8) : Decoder Unit := modify fun s => { s with output := s.output.push b }

/-- Repeats a step. -/
def times (step : Decoder Unit) : Nat → Decoder Unit
  | 0 => return ()
  | n + 1 => do
    step
    times step n

/-! ## Codes -/

/-- A canonical prefix code: the numbers of its words of each length from one, and its symbols in
the order of their words. -/
structure Code where
  counts : List Nat
  symbols : Array Nat

namespace Code

/-- The greatest length of a word. -/
def maxLength : Nat := 15

/-- The code in which each symbol has a word of the given length, or none if that is zero. -/
def ofLengths (lengths : List Nat) : Code :=
  let byLength := (List.range maxLength).map fun l =>
    (List.range lengths.length).filter fun s => lengths.getD s 0 = l + 1
  { counts := byLength.map (·.length), symbols := byLength.flatten.toArray }

/-- The share of all words of the greatest length that words of the code begin. -/
def share (code : Code) : Nat := code.counts.foldl (fun n count => 2 * n + count) 0

/-- Whether the code leaves no word over, or has at most one symbol if it may. -/
def isUsable (code : Code) (mayBeSingle : Bool) : Bool :=
  code.share = Nat.pow 2 maxLength || (mayBeSingle && code.symbols.size ≤ 1)

/-- Takes the rest of a word.  Of the words of the present length, `first` is the first one, and
`index` is the number of symbols with shorter words. -/
def takeFrom (symbols : Array Nat) (word first index : Nat) : List Nat → Decoder Nat
  | [] => throw .corrupt
  | count :: counts => do
    let word := word + (← bit)
    if word < first + count then
      match symbols[index + (word - first)]? with
      | some s => return s
      | none => throw .corrupt
    else takeFrom symbols (2 * word) (2 * (first + count)) (index + count) counts

/-- Takes a word; the result is its symbol. -/
def take (code : Code) : Decoder Nat := takeFrom code.symbols 0 0 0 code.counts

/-- The code of literals and lengths of a block with fixed codes. -/
def fixedLiterals : Code := ofLengths <|
  List.replicate 144 8 ++ List.replicate 112 9 ++ List.replicate 24 7 ++ List.replicate 8 8

/-- The code of distances of a block with fixed codes. -/
def fixedDistances : Code := ofLengths (List.replicate 32 5)

end Code

/-! ## Blocks -/

/-- The least lengths of the symbols for copies, and the numbers of bits that are added. -/
def lengthTable : List (Nat × Nat) := [
  (3, 0), (4, 0), (5, 0), (6, 0), (7, 0), (8, 0), (9, 0), (10, 0), (11, 1), (13, 1), (15, 1),
  (17, 1), (19, 2), (23, 2), (27, 2), (31, 2), (35, 3), (43, 3), (51, 3), (59, 3), (67, 4), (83, 4),
  (99, 4), (115, 4), (131, 5), (163, 5), (195, 5), (227, 5), (258, 0)]

/-- The least distances of the symbols for distances, and the numbers of bits that are added. -/
def distanceTable : List (Nat × Nat) := [
  (1, 0), (2, 0), (3, 0), (4, 0), (5, 1), (7, 1), (9, 2), (13, 2), (17, 3), (25, 3), (33, 4),
  (49, 4), (65, 5), (97, 5), (129, 6), (193, 6), (257, 7), (385, 7), (513, 8), (769, 8), (1025, 9),
  (1537, 9), (2049, 10), (3073, 10), (4097, 11), (6145, 11), (8193, 12), (12289, 12), (16385, 13),
  (24577, 13)]

/-- Takes the number that the symbol of a table stands for. -/
def takeNumber (table : List (Nat × Nat)) (symbol : Nat) : Decoder Nat :=
  match table[symbol]? with
  | some (base, extra) => return base + (← bits extra)
  | none => throw .corrupt

/-- Puts the byte at a distance before the end out once more.  Before the first byte there are
zeros. -/
def copyByte (distance : Nat) : Decoder Unit :=
  modify fun s =>
    let size := s.output.size
    let b := if distance ≤ size then s.output.getD (size - distance) 0 else 0
    { s with output := s.output.push b }

/-- Puts bytes at a distance before the end out once more. -/
def copy (length distance : Nat) : Decoder Unit := times (copyByte distance) length

/-- Decodes the symbols of a block, of which there are fewer than `fuel`. -/
def symbols (literals distances : Code) : Nat → Decoder Unit
  | 0 => throw .truncated
  | fuel + 1 => do
    let s ← literals.take
    if s < 256 then
      emit (UInt8.ofNat s)
      symbols literals distances fuel
    else if s = 256 then return ()
    else
      let length ← takeNumber lengthTable (s - 257)
      let distance ← takeNumber distanceTable (← distances.take)
      copy length distance
      symbols literals distances fuel

/-- Decodes a block of plain bytes. -/
def stored : Decoder Unit := do
  align
  let length ← bits 16
  let complement ← bits 16
  if length + complement ≠ 65535 then throw .corrupt
  times (do emit (UInt8.ofNat (← bits 8))) length

/-- The order in which the lengths of the words for lengths stand. -/
def lengthOrder : List Nat := [16, 17, 18, 0, 8, 7, 9, 6, 10, 5, 11, 4, 12, 3, 13, 2, 14, 1, 15]

/-- Takes numbers of three bits. -/
def takeThrees : Nat → Decoder (List Nat)
  | 0 => return []
  | n + 1 => do
    let first ← bits 3
    return first :: (← takeThrees n)

/-- Takes lengths of words until there are `total`, where `lengths` are the ones so far, reversed,
and fewer than `fuel` steps are left. -/
def takeLengths (code : Code) (total : Nat) (lengths : List Nat) : Nat → Decoder (List Nat)
  | 0 => throw .corrupt
  | fuel + 1 => do
    if lengths.length = total then return lengths.reverse
    else if total < lengths.length then throw .corrupt
    else
      let s ← code.take
      if s < 16 then takeLengths code total (s :: lengths) fuel
      else if s = 16 then
        match lengths with
        | [] => throw .corrupt
        | last :: _ =>
          takeLengths code total (List.replicate (3 + (← bits 2)) last ++ lengths) fuel
      else if s = 17 then
        takeLengths code total (List.replicate (3 + (← bits 3)) 0 ++ lengths) fuel
      else takeLengths code total (List.replicate (11 + (← bits 7)) 0 ++ lengths) fuel

/-- Takes the codes at the start of a block. -/
def takeCodes : Decoder (Code × Code) := do
  let literals := (← bits 5) + 257
  let distances := (← bits 5) + 1
  let shown := (← bits 4) + 4
  if 286 < literals || 30 < distances then throw .corrupt
  let threes := lengthOrder.zip (← takeThrees shown)
  let code := Code.ofLengths ((List.range 19).map fun s => (threes.lookup s).getD 0)
  if !code.isUsable false then throw .corrupt
  let total := literals + distances
  let lengths ← takeLengths code total [] (total + 1)
  let literalCode := Code.ofLengths (lengths.take literals)
  let distanceCode := Code.ofLengths (lengths.drop literals)
  if literalCode.isUsable true && distanceCode.isUsable true then
    return (literalCode, distanceCode)
  else throw .corrupt

/-- Decodes blocks up to the last one, of which there are fewer than `fuel`.  A block has no more
symbols than the input has bits. -/
def blocks : Nat → Decoder Unit
  | 0 => throw .truncated
  | fuel + 1 => do
    let isLast ← bit
    let symbolFuel := 8 * (← get).input.size + 1
    match ← bits 2 with
    | 0 => stored
    | 1 => symbols .fixedLiterals .fixedDistances symbolFuel
    | 2 => do
      let (literals, distances) ← takeCodes
      symbols literals distances symbolFuel
    | _ => throw .corrupt
    if isLast = 1 then align else blocks fuel

/-- Decodes a compressed stream that begins at a byte of the input.  The result is why decoding
ended too early, if it did, the bytes decoded, and the place of the byte after the stream. -/
def run (input : Array UInt8) (start : Nat) : Option Stop × Array UInt8 × Nat :=
  let (result, s) := (blocks (8 * input.size + 1)).run.run { input, position := 8 * start }
  (match result with
    | .ok () => none
    | .error stop => some stop, s.output, s.position / 8)

end LogicalBackup.Inflate
