import Courier.Compression.PrefixCode
import Courier.Compression.Repeats

/-
  This file writes and reads DEFLATE data. It is written as one
  block with the fixed code; blocks of every kind are read.

  Key definitions include:
    * `Deflate.lengthTable`
    * `Deflate.distanceTable`
    * `Deflate.compress`
    * `Deflate.decompress`
-/

namespace Courier.Compression.Deflate

------------------------------------------------------------
-- Tables
------------------------------------------------------------

/- The least length of each code, and its extra bits. -/
def lengthTable : List (Nat × Nat) :=
  [ (3, 0), (4, 0), (5, 0), (6, 0), (7, 0), (8, 0), (9, 0),
    (10, 0), (11, 1), (13, 1), (15, 1), (17, 1), (19, 2),
    (23, 2), (27, 2), (31, 2), (35, 3), (43, 3), (51, 3),
    (59, 3), (67, 4), (83, 4), (99, 4), (115, 4), (131, 5),
    (163, 5), (195, 5), (227, 5), (258, 0) ]

/- The least distance of each code, and its extra bits. -/
def distanceTable : List (Nat × Nat) :=
  [ (1, 0), (2, 0), (3, 0), (4, 0), (5, 1), (7, 1), (9, 2),
    (13, 2), (17, 3), (25, 3), (33, 4), (49, 4), (65, 5),
    (97, 5), (129, 6), (193, 6), (257, 7), (385, 7), (513, 8),
    (769, 8), (1025, 9), (1537, 9), (2049, 10), (3073, 10),
    (4097, 11), (6145, 11), (8193, 12), (12289, 12),
    (16385, 13), (24577, 13) ]

/- The last entry that does not exceed a value. -/
def entryFor
    (value code : Nat) :
    List (Nat × Nat) → Nat × Nat × Nat
  | [] => (code, value, 0)
  | [(least, extra)] => (code, least, extra)
  | (least, extra) :: (next, more) :: rest =>
      if value < next then
        (code, least, extra)
      else
        entryFor value (code + 1) ((next, more) :: rest)

------------------------------------------------------------
-- Writing
------------------------------------------------------------

/- A value with its lowest `count` bits in reverse order. -/
def reversed
    (count value : Nat) : Nat :=
  match count with
  | 0 => 0
  | count + 1 =>
      value % 2 * 2 ^ count + reversed count (value / 2)

/- Write a symbol of the fixed code. -/
def putSymbol
    (w : BitWriter)
    (symbol : Nat) : BitWriter :=
  if symbol < 144 then
    w.put 8 (reversed 8 (48 + symbol))
  else if symbol < 256 then
    w.put 9 (reversed 9 (400 + (symbol - 144)))
  else if symbol < 280 then
    w.put 7 (reversed 7 (symbol - 256))
  else
    w.put 8 (reversed 8 (192 + (symbol - 280)))

/- Write bytes as they are. -/
def putPlain
    (data : ByteArray)
    (start count : Nat)
    (w : BitWriter) : BitWriter :=
  match count with
  | 0 => w
  | count + 1 =>
      putPlain data (start + 1) count
        (putSymbol w (byteAt data start).toNat)

/- Write a repeat. -/
def putRepeat
    (w : BitWriter)
    (distance length : Nat) : BitWriter :=
  let (code, least, extra) := entryFor length 0 lengthTable
  let w := (putSymbol w (257 + code)).put extra (length - least)
  let (code, least, extra) := entryFor distance 0 distanceTable
  (w.put 5 (reversed 5 code)).put extra (distance - least)

/- Write one stretch. -/
def putStretch
    (data : ByteArray)
    (w : BitWriter) : Stretch → BitWriter
  | .plain start length => putPlain data start length w
  | .repeated distance length => putRepeat w distance length

/- The repeats that DEFLATE can write. -/
def limits : RepeatLimits :=
  ⟨4, 258, 32768⟩

/- The data as a single final block of the fixed code. -/
def compress
    (data : ByteArray) : ByteArray :=
  let w := ({} : BitWriter).put 3 3
  let w := (stretches limits data).foldl (putStretch data) w
  (putSymbol w 256).finish

------------------------------------------------------------
-- Codes
------------------------------------------------------------

/- The fixed code of literals and lengths. -/
def fixedLiterals : PrefixCode :=
  .ofLengths
    (Array.replicate 144 8 ++ Array.replicate 112 9
      ++ Array.replicate 24 7 ++ Array.replicate 8 8)

/- The fixed code of distances. -/
def fixedDistances : PrefixCode :=
  .ofLengths (Array.replicate 30 5)

------------------------------------------------------------
-- Reading
------------------------------------------------------------

/-
  Read the symbols of a block up to its end. A copy may begin
  before the start of the data, where the window is all zeros.
-/
def readSymbols
    (literals distances : PrefixCode)
    (fuel : Nat)
    (r : BitReader)
    (out : ByteArray) : Option (BitReader × ByteArray) :=
  match fuel with
  | 0 => none
  | fuel + 1 => do
      let (symbol, r) ← literals.read? r
      if symbol < 256 then
        readSymbols literals distances fuel r
          (out.push (UInt8.ofNat symbol))
      else if symbol = 256 then
        return (r, out)
      else
        let (least, extra) ← lengthTable[symbol - 257]?
        let (more, r) ← r.take? extra
        let length := least + more
        let (code, r) ← distances.read? r
        let (least, extra) ← distanceTable[code]?
        let (more, r) ← r.take? extra
        readSymbols literals distances fuel r
          (copyBack (least + more) length out)

/- Read a block that is stored as it is. -/
def readStored
    (r : BitReader)
    (out : ByteArray) : Option (BitReader × ByteArray) := do
  let (length, r) ← r.align.take? 16
  let (check, r) ← r.take? 16
  if length + check = 65535 then
    let (bytes, r) ← r.takeBytes? length
    return (r, out ++ bytes)
  else
    none

/- The order in which the lengths of the length code come. -/
def lengthOrder : List Nat :=
  [16, 17, 18, 0, 8, 7, 9, 6, 10, 5, 11, 4, 12, 3, 13, 2, 14,
    1, 15]

/- Read the three bit lengths of the length code. -/
def readOrdered
    (r : BitReader)
    (lengths : Array Nat) :
    List Nat → Option (Array Nat × BitReader)
  | [] => some (lengths, r)
  | symbol :: rest => do
      let (n, r) ← r.take? 3
      readOrdered r (lengths.setIfInBounds symbol n) rest

/- Read `count` code lengths. -/
def readLengths
    (code : PrefixCode)
    (count fuel : Nat)
    (r : BitReader)
    (lengths : Array Nat) : Option (Array Nat × BitReader) :=
  match fuel with
  | 0 => none
  | fuel + 1 =>
      if count ≤ lengths.size then
        if lengths.size = count then some (lengths, r) else none
      else do
        let (symbol, r) ← code.read? r
        if symbol < 16 then
          readLengths code count fuel r (lengths.push symbol)
        else if symbol = 16 then
          let last ← lengths.back?
          let (n, r) ← r.take? 2
          readLengths code count fuel r
            (lengths ++ Array.replicate (n + 3) last)
        else if symbol = 17 then
          let (n, r) ← r.take? 3
          readLengths code count fuel r
            (lengths ++ Array.replicate (n + 3) 0)
        else
          let (n, r) ← r.take? 7
          readLengths code count fuel r
            (lengths ++ Array.replicate (n + 11) 0)

/-
  True for a code that a block may use: it is complete, or has
  no symbol, or a single one of one bit.
-/
def isUsable
    (p : PrefixCode) : Bool :=
  p.isComplete
    || (p.symbols.size ≤ 1 && p.symbols.size = p.counts.getD 1 0)

/- The most literal and length symbols that a block codes. -/
def maxLiterals : Nat := 286

/- The most distance symbols that a block codes. -/
def maxDistances : Nat := 30

/- Read the two codes at the start of a block. -/
def readCodes
    (r : BitReader) :
    Option (PrefixCode × PrefixCode × BitReader) := do
  let (n, r) ← r.take? 5
  let (m, r) ← r.take? 5
  let (ordered, r) ← r.take? 4
  let literals := n + 257
  let distances := m + 1
  let (lengths, r) ←
    readOrdered r (Array.replicate 19 0)
      (lengthOrder.take (ordered + 4))
  let code := PrefixCode.ofLengths lengths
  let total := literals + distances
  if literals ≤ maxLiterals && distances ≤ maxDistances
      && code.isComplete then
    let (lengths, r) ← readLengths code total (total + 1) r #[]
    let first := PrefixCode.ofLengths (lengths.extract 0 literals)
    let second :=
      PrefixCode.ofLengths (lengths.extract literals total)
    if isUsable first && isUsable second then
      return (first, second, r)
    else
      none
  else
    none

/- Read one block of a given kind. -/
def readBlock
    (kind : Nat)
    (r : BitReader)
    (out : ByteArray) : Option (BitReader × ByteArray) :=
  match kind with
  | 0 => readStored r out
  | 1 =>
      readSymbols fixedLiterals fixedDistances (r.left + 1) r out
  | 2 => do
      let (literals, distances, r) ← readCodes r
      readSymbols literals distances (r.left + 1) r out
  | _ => none

/- Read blocks up to the final one. -/
def readBlocks
    (fuel : Nat)
    (r : BitReader)
    (out : ByteArray) : Option (BitReader × ByteArray) :=
  match fuel with
  | 0 => none
  | fuel + 1 => do
      let (final, r) ← r.take? 1
      let (kind, r) ← r.take? 2
      let (r, out) ← readBlock kind r out
      if final = 1 then
        return (r, out)
      else
        readBlocks fuel r out

/- The data, and the bytes that follow its last block. -/
def decompress
    (data : ByteArray) : Option (ByteArray × ByteArray) := do
  let r : BitReader := { data }
  let (r, out) ← readBlocks (r.left + 1) r .empty
  return (out, data.extract (r.align.pos / 8) data.size)

end Courier.Compression.Deflate
