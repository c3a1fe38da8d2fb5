import Courier.Header.List
import Courier.Text.Numeral

/-
  This file defines entity tags: the digest of a body, the tag
  a response carries and the comparison with what the client
  already has.

  Key definitions include:
    * `Tag.digest`
    * `Tag.ofBody`
    * `Tag.apply`
    * `Tag.isNotModified`
-/

namespace Courier.Tag

------------------------------------------------------------
-- The digest
------------------------------------------------------------

/- Where the digest of no bytes starts. -/
def offsetBasis : UInt64 :=
  0xcbf29ce484222325

/- The odd multiplier of the digest. -/
def prime : UInt64 :=
  0x100000001b3

/- Take one byte into the digest. -/
def absorb
    (hash : UInt64)
    (b : UInt8) : UInt64 :=
  (hash ^^^ b.toUInt64) * prime

/- Take the bytes from a position on into the digest. -/
def absorbFrom
    (data : ByteArray)
    (i : Nat)
    (hash : UInt64) : UInt64 :=
  if h : i < data.size then
    absorbFrom data (i + 1) (absorb hash data[i])
  else
    hash
termination_by data.size - i

/- The FNV-1a digest of bytes, sixty-four bits wide. -/
def digest
    (data : ByteArray) : UInt64 :=
  absorbFrom data 0 offsetBasis

/- The tag of a body: its digest in lower case hexadecimal. -/
def ofBody
    (body : ByteArray) : String :=
  Numeral.hex (digest body).toNat

------------------------------------------------------------
-- The tag of a response
------------------------------------------------------------

/-
  Give a response with a buffered body its tag. A body without
  bytes gets none. A tag chosen by the handler replaces what is
  there; the digest only fills in where there is none.
-/
def apply
    (headers : HeaderList)
    (body : ByteArray)
    (explicit : Option String) : HeaderList :=
  if body.isEmpty then
    headers
  else
    match explicit with
    | some tag => headers.set "ETag" tag
    | none =>
        if headers.has "ETag" then headers
        else headers.set "ETag" (ofBody body)

/-
  True when the client names exactly the tag of the response,
  which is not empty.
-/
def isNotModified
    (headers : HeaderList)
    (ifNoneMatch : Option String) : Bool :=
  match headers.get? "ETag", ifNoneMatch with
  | some tag, some named => !tag.isEmpty && tag == named
  | _, _ => false

end Courier.Tag
