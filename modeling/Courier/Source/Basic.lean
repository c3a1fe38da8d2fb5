import Courier.Error
import Courier.Instances

/-
  This file defines byte sources: finite byte sequences of a
  fixed length that are read in chunks by a cursor that only
  moves forward.

  Key definitions include:
    * `ByteSource`
    * `ByteSource.Bounded`
    * `Cursor`
    * `Cursor.nextRead`
    * `Cursor.advance`
-/

namespace Courier

/- What a read answers: a chunk and whether it was the last. -/
abbrev ReadAnswer :=
  Except IoError (ByteArray × Bool)

/-
  A state that bytes can be read from. `skip` answers whether
  the source is exhausted afterwards.
-/
class ByteSource (σ : Type) where
  read : Nat → σ → ReadAnswer × σ
  skip : Nat → σ → Bool × σ
  close : σ → Except IoError Unit × σ
  length : σ → Nat
  position : σ → Nat

/- A source that never answers more bytes than were asked for. -/
class ByteSource.Bounded
    (σ : Type)
    [ByteSource σ] : Prop where
  size_read_le :
    ∀ (n : Nat) (s : σ) (chunk : ByteArray) (last : Bool),
      (ByteSource.read n s).1 = .ok (chunk, last) →
        chunk.size ≤ n

------------------------------------------------------------
-- The cursor
------------------------------------------------------------

/- A position within content of a fixed length. -/
structure Cursor where
  position : Nat
  length : Nat
deriving DecidableEq, Repr

namespace Cursor

/- The cursor at the first byte. -/
def start
    (length : Nat) : Cursor :=
  ⟨0, length⟩

/- The bytes from the cursor on. -/
def remaining
    (c : Cursor) : Nat :=
  c.length - c.position

/- The size of the next read of at most `upTo` bytes. -/
def nextRead
    (c : Cursor)
    (upTo : Nat) : Nat :=
  min c.remaining upTo

/- Move forward by `n` bytes, at most to the end. -/
def advance
    (c : Cursor)
    (n : Nat) : Cursor :=
  { c with position := min (c.position + n) c.length }

/- True when no byte is left. -/
def isExhausted
    (c : Cursor) : Bool :=
  c.length ≤ c.position

/- Move to the end. -/
def toEnd
    (c : Cursor) : Cursor :=
  c.advance c.length

end Cursor

end Courier
