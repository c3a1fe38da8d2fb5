import Courier.Compression.Brotli.Blocks
import Courier.Compression.Brotli.Dictionary
import Courier.Compression.Repeats

/-
  This file reads Brotli streams. A stream is a sequence of
  meta-blocks. A coded one is a sequence of commands, each of
  which brings new bytes and then copies earlier ones, or a word
  of the dictionary.

  Key definitions include:
    * `Brotli.Window`
    * `Brotli.Header`
    * `Brotli.Codes`
    * `Brotli.readCommands`
    * `Brotli.decompress`
-/

namespace Courier.Compression.Brotli

------------------------------------------------------------
-- Windows
------------------------------------------------------------

/- How far copies may go back. -/
structure Window where
  bits : Nat
  isLarge : Bool := false
deriving DecidableEq, Repr

namespace Window

/- The greatest distance of a copy. -/
def reach
    (w : Window) : Nat :=
  2 ^ w.bits - 16

/- Read the size of the window. -/
def read?
    (r : BitReader) : Option (Window × BitReader) := do
  let (other, r) ← r.take? 1
  if other = 0 then
    return (⟨16, false⟩, r)
  let (n, r) ← r.take? 3
  if n ≠ 0 then
    return (⟨17 + n, false⟩, r)
  let (n, r) ← r.take? 3
  if n = 0 then
    return (⟨17, false⟩, r)
  if n ≠ 1 then
    return (⟨8 + n, false⟩, r)
  let (reserved, r) ← r.take? 1
  let (bits, r) ← r.take? 6
  if reserved = 0 && 10 ≤ bits && bits ≤ 30 then
    return (⟨bits, true⟩, r)
  else
    none

end Window

------------------------------------------------------------
-- Headers
------------------------------------------------------------

/- What a meta-block holds, with the number of its bytes. -/
inductive Content where
  | empty
  | skipped (length : Nat)
  | plain (length : Nat)
  | coded (length : Nat)
deriving DecidableEq, Repr

/- The start of a meta-block. -/
structure Header where
  isLast : Bool
  content : Content
deriving DecidableEq, Repr

namespace Header

/-
  Read a number of `count` digits of `width` bits. When it has
  more digits than the least number of them, the last is not
  zero.
-/
def readDigits?
    (width least count : Nat)
    (r : BitReader) : Option (Nat × BitReader) := do
  let (n, r) ← r.take? (width * count)
  if least < count && n < 2 ^ (width * (count - 1)) then none
  else return (n, r)

/- Read what a meta-block that holds no data has to skip. -/
def readSkipped?
    (r : BitReader) : Option (Content × BitReader) := do
  let (reserved, r) ← r.take? 1
  let (count, r) ← r.take? 2
  let (n, r) ← readDigits? 8 1 count r
  if reserved = 1 then none
  else return (.skipped (if count = 0 then 0 else n + 1), r)

/- Read the content of a meta-block that has one. -/
def readContent?
    (isLast : Bool)
    (r : BitReader) : Option (Content × BitReader) := do
  let (n, r) ← r.take? 2
  if n = 3 then
    readSkipped? r
  else
    let (length, r) ← readDigits? 4 4 (n + 4) r
    let (plain, r) ← r.take? (if isLast then 0 else 1)
    if plain = 1 then return (.plain (length + 1), r)
    else return (.coded (length + 1), r)

/- Read the start of a meta-block. -/
def read?
    (r : BitReader) : Option (Header × BitReader) := do
  let (last, r) ← r.take? 1
  let (empty, r) ← r.take? last
  if empty = 1 then
    return (⟨true, .empty⟩, r)
  else
    let (content, r) ← readContent? (last = 1) r
    return (⟨last = 1, content⟩, r)

end Header

------------------------------------------------------------
-- Codes
------------------------------------------------------------

/- The three sequences of blocks. -/
structure Blocks where
  literals : BlockSequence
  commands : BlockSequence
  distances : BlockSequence

/- Read how the three sequences of blocks are coded. -/
def Blocks.read?
    (r : BitReader) : Option (Blocks × BitReader) := do
  let (literals, r) ← BlockSequence.read? r
  let (commands, r) ← BlockSequence.read? r
  let (distances, r) ← BlockSequence.read? r
  return ({ literals, commands, distances }, r)

/- How the symbols of a meta-block are coded. -/
structure Codes where
  shape : DistanceShape
  modes : Array Nat
  literalMap : Array Nat
  distanceMap : Array Nat
  literals : Array PrefixCode
  commands : Array PrefixCode
  distances : Array PrefixCode

namespace Codes

/- Read the modes of the types of literals. -/
def readModes?
    (count : Nat)
    (modes : Array Nat)
    (r : BitReader) : Option (Array Nat × BitReader) :=
  match count with
  | 0 => some (modes, r)
  | count + 1 => do
      let (mode, r) ← r.take? 2
      readModes? count (modes.push mode) r

/- Read how the symbols of a meta-block are coded. -/
def read?
    (window : Window)
    (b : Blocks)
    (r : BitReader) : Option (Codes × BitReader) := do
  let (lowBits, r) ← r.take? 2
  let (direct, r) ← r.take? 4
  let shape : DistanceShape :=
    ⟨lowBits, direct * 2 ^ lowBits, window.isLarge⟩
  let (modes, r) ← readModes? b.literals.types #[] r
  let (literalCodes, literalMap, r) ←
    readMap? (b.literals.types * literalContexts) r
  let (distanceCodes, distanceMap, r) ←
    readMap? (b.distances.types * copyContexts) r
  let (literals, r) ← readCodes? 256 256 literalCodes #[] r
  let (commands, r) ←
    readCodes? commandCount commandCount b.commands.types #[] r
  let (distances, r) ←
    readCodes? shape.size shape.limit distanceCodes #[] r
  return (
    { shape, modes, literalMap, distanceMap, literals, commands
      distances }, r)

/- The code of a literal of a type, behind two bytes. -/
def literal?
    (c : Codes)
    (type last outer : Nat) : Option PrefixCode :=
  let mode := c.modes.getD type 0
  let place :=
    type * literalContexts + literalContext mode last outer
  c.literals[c.literalMap.getD place 0]?

/- The code of a distance of a type, for a copy. -/
def distance?
    (c : Codes)
    (type length : Nat) : Option PrefixCode :=
  let place := type * copyContexts + copyContext length
  c.distances[c.distanceMap.getD place 0]?

end Codes

------------------------------------------------------------
-- Commands
------------------------------------------------------------

/- Read new bytes. -/
def readLiterals
    (c : Codes)
    (count : Nat)
    (b : BlockSequence)
    (r : BitReader)
    (out : ByteArray) :
    Option (BlockSequence × BitReader × ByteArray) :=
  match count with
  | 0 => some (b, r, out)
  | count + 1 => do
      let (b, r) ← b.advance? r
      let code ←
        c.literal? b.type (byteBefore out 1).toNat
          (byteBefore out 2).toNat
      let (symbol, r) ← code.read? r
      readLiterals c count b r (out.push (UInt8.ofNat symbol))

/-
  A distance, and the distances that come before the next one
  once it has been used for a copy.
-/
structure CopyDistance where
  distance : Nat
  recent : List Nat

/- The last distance once more. -/
def CopyDistance.again?
    (recent : List Nat) : Option CopyDistance :=
  recent.head?.map fun distance => ⟨distance, recent⟩

/- Read the distance of a copy. -/
def CopyDistance.read?
    (c : Codes)
    (length : Nat)
    (recent : List Nat)
    (b : BlockSequence)
    (r : BitReader) :
    Option (CopyDistance × BlockSequence × BitReader) := do
  let (b, r) ← b.advance? r
  let code ← c.distance? b.type length
  let (symbol, r) ← code.read? r
  if symbol = 0 then
    return (← CopyDistance.again? recent, b, r)
  else if symbol < recentCount then
    let distance ← recentDistance? recent symbol
    return (⟨distance, distance :: recent.take 3⟩, b, r)
  else
    let (distance, r) ← c.shape.read? symbol r
    return (⟨distance, distance :: recent.take 3⟩, b, r)

/-
  Copy earlier bytes. A distance that goes back too far is the
  number of a word, and does not count as a distance.
-/
def copy?
    (window : Window)
    (length : Nat)
    (recent : List Nat)
    (d : CopyDistance)
    (out : ByteArray) : Option (List Nat × ByteArray) :=
  let farthest := min out.size window.reach
  if d.distance ≤ farthest then
    some (d.recent, copyBack d.distance length out)
  else
    (word? length (d.distance - farthest - 1)).map fun word =>
      (recent, out ++ word)

/-
  Read commands until the meta-block has its length, of which
  the last may end before its copy.
-/
def readCommands
    (window : Window)
    (c : Codes)
    (stop fuel : Nat)
    (recent : List Nat)
    (b : Blocks)
    (r : BitReader)
    (out : ByteArray) :
    Option (List Nat × BitReader × ByteArray) :=
  match fuel with
  | 0 => none
  | fuel + 1 => do
      let (commands, r) ← b.commands.advance? r
      let code ← c.commands[commands.type]?
      let (symbol, r) ← code.read? r
      let (newCode, copyCode) := commandCodes symbol
      let (new, r) ← readExtended? insertTable newCode r
      let (length, r) ← readExtended? copyTable copyCode r
      if stop < out.size + new then
        none
      else
        let (literals, r, out) ←
          readLiterals c new b.literals r out
        let b := { b with literals, commands }
        if out.size = stop then
          return (recent, r, out)
        else
          let (d, distances, r) ←
            if keepsDistance symbol then
              (CopyDistance.again? recent).map fun d =>
                (d, b.distances, r)
            else
              CopyDistance.read? c length recent b.distances r
          let (recent, out) ← copy? window length recent d out
          if stop < out.size then
            none
          else if out.size = stop then
            return (recent, r, out)
          else
            readCommands window c stop fuel recent
              { b with distances } r out

------------------------------------------------------------
-- Streams
------------------------------------------------------------

/- Go on to the next whole byte; what is passed is zero. -/
def pastPadding?
    (r : BitReader) : Option BitReader := do
  let (padding, r) ← r.take? ((8 - r.pos % 8) % 8)
  if padding = 0 then some r else none

/- Read the content of a meta-block. -/
def readContent
    (window : Window)
    (content : Content)
    (recent : List Nat)
    (r : BitReader)
    (out : ByteArray) :
    Option (List Nat × BitReader × ByteArray) :=
  match content with
  | .empty => some (recent, r, out)
  | .skipped length => do
      let (_, r) ← (← pastPadding? r).takeBytes? length
      return (recent, r, out)
  | .plain length => do
      let (bytes, r) ← (← pastPadding? r).takeBytes? length
      return (recent, r, out ++ bytes)
  | .coded length => do
      let (b, r) ← Blocks.read? r
      let (c, r) ← Codes.read? window b r
      readCommands window c (out.size + length)
        (length + r.left + 1) recent b r out

/- Read meta-blocks up to the last one. -/
def readMetaBlocks
    (window : Window)
    (fuel : Nat)
    (recent : List Nat)
    (r : BitReader)
    (out : ByteArray) : Option (BitReader × ByteArray) :=
  match fuel with
  | 0 => none
  | fuel + 1 => do
      let (header, r) ← Header.read? r
      let (recent, r, out) ←
        readContent window header.content recent r out
      if header.isLast then
        return (r, out)
      else
        readMetaBlocks window fuel recent r out

/- The data of a stream; what follows it is not read. -/
def decompress
    (packed : ByteArray) : Option ByteArray := do
  let (window, r) ← Window.read? { data := packed }
  let (r, out) ←
    readMetaBlocks window (r.left + 1) firstDistances r .empty
  let _ ← pastPadding? r
  return out

end Courier.Compression.Brotli
