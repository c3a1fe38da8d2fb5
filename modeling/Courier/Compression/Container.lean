import Courier.Compression.Deflate

/-
  This file wraps DEFLATE data in the two containers that
  content codings use: gzip and zlib, each with its checksum.

  Key definitions include:
    * `Checksum.crc32`
    * `Checksum.adler32`
    * `Gzip.compress`
    * `Gzip.decompress`
    * `Zlib.compress`
    * `Zlib.decompress`
-/

namespace Courier.Compression

------------------------------------------------------------
-- Checksums
------------------------------------------------------------

namespace Checksum

/- Shift a remainder by `count` bits. -/
def shift
    (count : Nat)
    (crc : UInt32) : UInt32 :=
  match count with
  | 0 => crc
  | count + 1 =>
      shift count
        (if crc &&& 1 = 1 then (crc >>> 1) ^^^ 0xEDB88320
          else crc >>> 1)

/- The remainder of the bytes from a position on. -/
def crcFrom
    (data : ByteArray)
    (i : Nat)
    (crc : UInt32) : UInt32 :=
  if h : i < data.size then
    crcFrom data (i + 1) (shift 8 (crc ^^^ data[i].toUInt32))
  else
    crc
termination_by data.size - i

/- The cyclic redundancy check of gzip. -/
def crc32
    (data : ByteArray) : UInt32 :=
  crcFrom data 0 0xFFFFFFFF ^^^ 0xFFFFFFFF

/- The two running sums of the bytes from a position on. -/
def adlerFrom
    (data : ByteArray)
    (i : Nat)
    (a b : UInt32) : UInt32 :=
  if h : i < data.size then
    let a := (a + data[i].toUInt32) % 65521
    adlerFrom data (i + 1) a ((b + a) % 65521)
  else
    (b <<< 16) ||| a
termination_by data.size - i

/- The checksum of zlib. -/
def adler32
    (data : ByteArray) : UInt32 :=
  adlerFrom data 0 1 0

end Checksum

/- Four bytes of a word, the lowest first. -/
def littleEndian
    (w : UInt32) : ByteArray :=
  ⟨#[w.toUInt8, (w >>> 8).toUInt8, (w >>> 16).toUInt8,
    (w >>> 24).toUInt8]⟩

/- Four bytes of a word, the highest first. -/
def bigEndian
    (w : UInt32) : ByteArray :=
  ⟨#[(w >>> 24).toUInt8, (w >>> 16).toUInt8, (w >>> 8).toUInt8,
    w.toUInt8]⟩

------------------------------------------------------------
-- gzip
------------------------------------------------------------

namespace Gzip

/- The header of a member without a name or a time. -/
def header : ByteArray :=
  ⟨#[0x1F, 0x8B, 8, 0, 0, 0, 0, 0, 0, 255]⟩

/- What follows the data of a member. -/
def trailer
    (data : ByteArray) : ByteArray :=
  littleEndian (Checksum.crc32 data)
    ++ littleEndian (UInt32.ofNat data.size)

/- The data as a gzip member. -/
def compress
    (data : ByteArray) : ByteArray :=
  header ++ Deflate.compress data ++ trailer data

/- The most bytes that a text in a header has. -/
def maxText : Nat := 65535

/- The position after the zero that ends a text. -/
def afterText?
    (data : ByteArray)
    (start i : Nat) : Option Nat :=
  if h : i < data.size then
    if data[i] = 0 then some (i + 1)
    else if i < start + maxText then
      afterText? data start (i + 1)
    else none
  else
    none
termination_by data.size - i

/- True for the flag with a number. -/
def hasFlag
    (flags : UInt8)
    (n : Nat) : Bool :=
  flags.toNat / 2 ^ n % 2 = 1

/- A number of two bytes, the lowest first. -/
def wordAt
    (data : ByteArray)
    (i : Nat) : Nat :=
  (byteAt data i).toNat + 256 * (byteAt data (i + 1)).toNat

/-
  The position after the header of a member: extra data, a name
  and a comment may follow, and the low half of the checksum of
  all that.
-/
def afterHeader?
    (data : ByteArray) : Option Nat := do
  let flags := byteAt data 3
  let i := 10
  let i := if hasFlag flags 2 then i + 2 + wordAt data i else i
  let i ← if hasFlag flags 3 then afterText? data i i else i
  let i ← if hasFlag flags 4 then afterText? data i i else i
  if hasFlag flags 1 then
    let sum := Checksum.crc32 (data.extract 0 i)
    if wordAt data i = sum.toNat % 2 ^ 16 then some (i + 2)
    else none
  else
    some i

/-
  The data of the first member. The flags that have no meaning
  must not be set, and what follows the member is not read.
-/
def decompress
    (packed : ByteArray) : Option ByteArray :=
  if packed.extract 0 3 = ⟨#[0x1F, 0x8B, 8]⟩
      && byteAt packed 3 < 32 then do
    let start ← afterHeader? packed
    let (data, rest) ←
      Deflate.decompress (packed.extract start packed.size)
    if rest.extract 0 8 = trailer data then some data else none
  else
    none

end Gzip

------------------------------------------------------------
-- zlib
------------------------------------------------------------

namespace Zlib

/- The data as a zlib stream. -/
def compress
    (data : ByteArray) : ByteArray :=
  ⟨#[0x78, 0x9C]⟩ ++ Deflate.compress data
    ++ bigEndian (Checksum.adler32 data)

/-
  True for the two bytes that begin a zlib stream: a window of
  at most 32768 bytes, no dictionary, and a check.
-/
def isHeader
    (a b : UInt8) : Bool :=
  a.toNat % 16 = 8 && a.toNat / 16 < 8
    && (256 * a.toNat + b.toNat) % 31 = 0
    && b.toNat / 32 % 2 = 0

/- The data of a stream; what follows it is not read. -/
def decompress
    (packed : ByteArray) : Option ByteArray :=
  if isHeader (byteAt packed 0) (byteAt packed 1) then do
    let body := packed.extract 2 packed.size
    let (data, rest) ← Deflate.decompress body
    if rest.extract 0 4 = bigEndian (Checksum.adler32 data) then
      some data
    else none
  else
    none

end Zlib

end Courier.Compression
