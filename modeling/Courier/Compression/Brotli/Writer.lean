import Courier.Compression.Brotli.Tables
import Courier.Compression.Deflate

/-
  This file writes Brotli streams of two kinds of meta-blocks:
  bytes as they are, and a single copy of earlier bytes.

  Key definitions include:
    * `Brotli.compress`
-/

namespace Courier.Compression.Brotli

open Deflate (entryFor)

------------------------------------------------------------
-- Symbols
------------------------------------------------------------

/- The least distance of each code, and its extra bits. -/
def distanceTable : List (Nat × Nat) :=
  (List.range 48).map fun code =>
    (DistanceShape.mk 0 0 false).entry (recentCount + code)

/- The symbol of a command that inserts nothing and copies. -/
def commandSymbol
    (lengthCode : Nat) : Nat :=
  if lengthCode < 8 then 128 + lengthCode
  else if lengthCode < 16 then 184 + lengthCode
  else 368 + lengthCode

/- The repeats that are worth a meta-block of their own. -/
def limits : RepeatLimits :=
  ⟨32, 2 ^ 24, 2 ^ 24 - 16⟩

------------------------------------------------------------
-- Writing
------------------------------------------------------------

/- Write the start of a meta-block that is not the last. -/
def putLength
    (w : BitWriter)
    (length : Nat) : BitWriter :=
  let n := length - 1
  let nibbles :=
    if n < 2 ^ 16 then 4 else if n < 2 ^ 20 then 5 else 6
  ((w.put 1 0).put 2 (nibbles - 4)).put (4 * nibbles) n

/- Write bytes as they are, in at most `fuel` meta-blocks. -/
def putPlain
    (data : ByteArray)
    (fuel start length : Nat)
    (w : BitWriter) : BitWriter :=
  match fuel with
  | 0 => w
  | fuel + 1 =>
      if length = 0 then
        w
      else
        let n := min length (2 ^ 24)
        let bytes := data.extract start (start + n)
        let w := ((putLength w n).put 1 1).putBytes bytes
        putPlain data fuel (start + n) (length - n) w

/- Write the code that has a single symbol. -/
def putSingle
    (w : BitWriter)
    (width symbol : Nat) : BitWriter :=
  (w.put 4 1).put width symbol

/- Write a copy as a meta-block of its own. -/
def putCopy
    (w : BitWriter)
    (distance length : Nat) : BitWriter :=
  let (lengthCode, least, extra) :=
    entryFor length 0 copyTable.toList
  let (distanceCode, nearest, more) :=
    entryFor distance 0 distanceTable
  let w := ((putLength w length).put 1 0).put 13 0
  let w := putSingle w 8 0
  let w := putSingle w 10 (commandSymbol lengthCode)
  let w := putSingle w 6 (16 + distanceCode)
  (w.put extra (length - least)).put more (distance - nearest)

/- Write one stretch. -/
def putStretch
    (data : ByteArray)
    (w : BitWriter) : Stretch → BitWriter
  | .plain start length =>
      putPlain data (length / 2 ^ 24 + 1) start length w
  | .repeated distance length => putCopy w distance length

/- The data as a stream. -/
def compress
    (data : ByteArray) : ByteArray :=
  let w := ({} : BitWriter).put 4 15
  let w := (stretches limits data).foldl (putStretch data) w
  (w.put 2 3).finish

end Courier.Compression.Brotli
