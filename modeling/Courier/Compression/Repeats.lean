import Courier.Compression.Bits

/-
  This file cuts bytes into stretches that are new and
  stretches that repeat earlier bytes.

  Repeats are looked up by their first four bytes in a table of
  the positions that were visited last.

  Key definitions include:
    * `Stretch`
    * `RepeatLimits`
    * `matchLength`
    * `stretches`
    * `byteBefore`
    * `copyBack`
-/

namespace Courier.Compression

/-
  Bytes that are taken as they are, or bytes that repeat those
  `distance` before them.
-/
inductive Stretch where
  | plain (start length : Nat)
  | repeated (distance length : Nat)
deriving DecidableEq, Repr

/- Which repeats a format can write. -/
structure RepeatLimits where
  minLength : Nat
  maxLength : Nat
  maxDistance : Nat

/- How far two positions agree, from a length on. -/
def matchLength
    (data : ByteArray)
    (a b limit length : Nat) : Nat :=
  if _h : length < limit then
    if byteAt data (a + length) = byteAt data (b + length) then
      matchLength data a b limit (length + 1)
    else
      length
  else
    length
termination_by limit - length

/- The size of the table of positions. -/
def tableSize : Nat :=
  65536

/- The table slot of the four bytes at a position. -/
@[inline]
def slot
    (data : ByteArray)
    (i : Nat) : Nat :=
  let word :=
    (byteAt data i).toUInt32
      ||| ((byteAt data (i + 1)).toUInt32 <<< 8)
      ||| ((byteAt data (i + 2)).toUInt32 <<< 16)
      ||| ((byteAt data (i + 3)).toUInt32 <<< 24)
  ((word * 2654435761) >>> 16).toNat

/- Add the new bytes between two positions, if any. -/
def addPlain
    (out : Array Stretch)
    (start stop : Nat) : Array Stretch :=
  if start < stop then out.push (.plain start (stop - start))
  else out

/-
  Cut the bytes from `pos` on, with new bytes pending since
  `start`.
-/
def cutFrom
    (limits : RepeatLimits)
    (data : ByteArray)
    (pos start : Nat)
    (table : Array Nat)
    (out : Array Stretch) : Array Stretch :=
  if _h : pos < data.size then
    let key := slot data pos
    let seen := table.getD key 0
    let table := table.setIfInBounds key (pos + 1)
    let distance := pos + 1 - seen
    let length :=
      if seen ≠ 0 && distance ≤ limits.maxDistance then
        matchLength data (seen - 1) pos
          (min limits.maxLength (data.size - pos)) 0
      else
        0
    if limits.minLength ≤ length && length ≠ 0 then
      cutFrom limits data (pos + max length 1) (pos + length)
        table
        ((addPlain out start pos).push
          (.repeated distance length))
    else
      cutFrom limits data (pos + 1) start table out
  else
    addPlain out start data.size
termination_by data.size - pos

/- The stretches of bytes, in order. -/
def stretches
    (limits : RepeatLimits)
    (data : ByteArray) : Array Stretch :=
  cutFrom limits data 0 0 (Array.replicate tableSize 0) #[]

/-
  The byte that is so far before the end. There are only zeros
  before the start.
-/
@[inline]
def byteBefore
    (out : ByteArray)
    (distance : Nat) : UInt8 :=
  if distance ≤ out.size then byteAt out (out.size - distance)
  else 0

/- Append `count` bytes that repeat those `distance` before. -/
def copyBack
    (distance count : Nat)
    (out : ByteArray) : ByteArray :=
  match count with
  | 0 => out
  | count + 1 =>
      copyBack distance count
        (out.push (byteBefore out distance))

end Courier.Compression
