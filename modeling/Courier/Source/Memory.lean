import Courier.Source.Basic

/-
  This file defines the source over a buffer in memory.

  Key definitions include:
    * `MemorySource`
    * `MemorySource.ofBytes`
    * `MemorySource.read`
    * `MemorySource.skip`
-/

namespace Courier

/- A buffer and a cursor into it. -/
structure MemorySource where
  data : ByteArray
  cursor : Cursor
deriving DecidableEq

namespace MemorySource

/- The source over a buffer, at its first byte. -/
def ofBytes
    (data : ByteArray) : MemorySource :=
  ⟨data, .start data.size⟩

/- The next bytes of the buffer. -/
def read
    (upTo : Nat)
    (s : MemorySource) : ReadAnswer × MemorySource :=
  let n := s.cursor.nextRead upTo
  let start := s.cursor.position
  let cursor := s.cursor.advance n
  (.ok (s.data.extract start (start + n), cursor.isExhausted),
    { s with cursor })

/- Move the cursor forward. -/
def skip
    (n : Nat)
    (s : MemorySource) : Bool × MemorySource :=
  let cursor := s.cursor.advance n
  (cursor.isExhausted, { s with cursor })

instance : ByteSource MemorySource where
  read := read
  skip := skip
  close s := (.ok (), s)
  length s := s.cursor.length
  position s := s.cursor.position

end MemorySource

end Courier
