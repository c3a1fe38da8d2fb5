import Courier.Instances

/-
  This file writes and reads bit streams whose bits fill each
  byte from its least significant end.

  Key definitions include:
    * `byteAt`
    * `BitWriter`
    * `BitWriter.put`
    * `BitWriter.finish`
    * `BitReader`
    * `BitReader.take?`
-/

namespace Courier.Compression

/- The byte at a position, zero past the end. -/
@[inline]
def byteAt
    (data : ByteArray)
    (i : Nat) : UInt8 :=
  if h : i < data.size then data[i] else 0

------------------------------------------------------------
-- Writing
------------------------------------------------------------

/- Whole bytes, and up to seven bits held back. -/
structure BitWriter where
  bytes : ByteArray := .empty
  hold : UInt64 := 0
  held : Nat := 0

namespace BitWriter

/- Write out whole bytes, at most `fuel` of them. -/
def drain
    (fuel : Nat)
    (w : BitWriter) : BitWriter :=
  match fuel with
  | 0 => w
  | fuel + 1 =>
      if 8 ≤ w.held then
        drain fuel
          { bytes := w.bytes.push w.hold.toUInt8
            hold := w.hold >>> 8
            held := w.held - 8 }
      else
        w

/- Write the low `count` bits of a value, up to thirty-two. -/
def put
    (w : BitWriter)
    (count value : Nat) : BitWriter :=
  drain 8
    { w with
      hold := w.hold
        ||| (UInt64.ofNat value <<< UInt64.ofNat w.held)
      held := w.held + count }

/- Fill the last byte with zeros. -/
def align
    (w : BitWriter) : BitWriter :=
  if w.held = 0 then w else w.put (8 - w.held) 0

/- Write whole bytes after filling the last one. -/
def putBytes
    (w : BitWriter)
    (bytes : ByteArray) : BitWriter :=
  let w := w.align
  { w with bytes := w.bytes ++ bytes }

/- The bytes that have been written. -/
def finish
    (w : BitWriter) : ByteArray :=
  w.align.bytes

end BitWriter

------------------------------------------------------------
-- Reading
------------------------------------------------------------

/- Bytes and the position of the next bit. -/
structure BitReader where
  data : ByteArray
  pos : Nat := 0

namespace BitReader

/- How many bits are left. -/
def left
    (r : BitReader) : Nat :=
  8 * r.data.size - r.pos

/- The next bit. -/
def bit?
    (r : BitReader) : Option (Nat × BitReader) :=
  if h : r.pos / 8 < r.data.size then
    let byte := r.data[r.pos / 8]
    some ((byte.toNat >>> (r.pos % 8)) % 2,
      { r with pos := r.pos + 1 })
  else
    none

/- The next `count` bits as a number, the first one lowest. -/
def take?
    (count : Nat)
    (r : BitReader) : Option (Nat × BitReader) :=
  match count with
  | 0 => some (0, r)
  | count + 1 => do
      let (low, r) ← r.bit?
      let (high, r) ← take? count r
      return (low + 2 * high, r)

/- Go on to the next whole byte. -/
def align
    (r : BitReader) : BitReader :=
  { r with pos := (r.pos + 7) / 8 * 8 }

/- The next whole bytes, from a byte boundary on. -/
def takeBytes?
    (count : Nat)
    (r : BitReader) : Option (ByteArray × BitReader) :=
  let start := r.pos / 8
  if start + count ≤ r.data.size then
    some (r.data.extract start (start + count),
      { r with pos := r.pos + 8 * count })
  else
    none

end BitReader

end Courier.Compression
