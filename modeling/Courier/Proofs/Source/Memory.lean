import Courier.Source.Memory

/-
  Buffers in memory as sources. Such a source is a buffer and a
  position in it; reading answers the bytes from the position on
  and moves behind them.

  Key definitions include:
    * `MemorySource.atPosition`

  Main statements:
    * `MemorySource.read_atPosition`
    * `MemorySource.skip_atPosition`
-/

namespace Courier.MemorySource

/- The source over a buffer with its cursor at a position. -/
def atPosition
    (data : ByteArray)
    (position : Nat) : MemorySource :=
  ⟨data, ⟨position, data.size⟩⟩

theorem ofBytes_eq_atPosition
    (data : ByteArray) :
    ofBytes data = atPosition data 0 := rfl

@[simp] theorem length_ofBytes
    (data : ByteArray) :
    ByteSource.length (ofBytes data) = data.size := rfl

/- No read answers more bytes than it was asked for. -/
instance : ByteSource.Bounded MemorySource where
  size_read_le n s chunk last hRead := by
    have hChunk :
        s.data.extract s.cursor.position
          (s.cursor.position + s.cursor.nextRead n) = chunk :=
      (Prod.mk.inj (Except.ok.inj hRead)).1
    have hNext : s.cursor.nextRead n ≤ n := Nat.min_le_right _ _
    rw [← hChunk, ByteArray.size_extract]
    omega

/- A read within the buffer answers just what is asked for. -/
theorem read_atPosition
    {data : ByteArray}
    {position n : Nat}
    (hWithin : position + n ≤ data.size) :
    ByteSource.read n (atPosition data position) =
      (.ok (data.extract position (position + n),
          decide (data.size ≤ position + n)),
        atPosition data (position + n)) := by
  have hNext :
      (atPosition data position).cursor.nextRead n = n := by
    simp only [Cursor.nextRead, Cursor.remaining, atPosition]
    omega
  have hAdvance :
      (atPosition data position).cursor.advance n =
        ⟨position + n, data.size⟩ := by
    simp only [Cursor.advance, atPosition]
    rw [Nat.min_eq_left hWithin]
  change read n (atPosition data position) = _
  rw [read, hNext, hAdvance]
  rfl

/- A skip within the buffer moves by the whole count. -/
theorem skip_atPosition
    {data : ByteArray}
    {position n : Nat}
    (hWithin : position + n ≤ data.size) :
    ByteSource.skip n (atPosition data position) =
      (decide (data.size ≤ position + n),
        atPosition data (position + n)) := by
  have hAdvance :
      (atPosition data position).cursor.advance n =
        ⟨position + n, data.size⟩ := by
    simp only [Cursor.advance, atPosition]
    rw [Nat.min_eq_left hWithin]
  change skip n (atPosition data position) = _
  rw [skip, hAdvance]
  rfl

/- Skipping to a byte of a fresh buffer leaves bytes to read. -/
theorem skip_ofBytes
    {data : ByteArray}
    {start : Nat}
    (hStart : start < data.size) :
    ByteSource.skip start (ofBytes data) =
      (false, atPosition data start) := by
  rw [ofBytes_eq_atPosition, skip_atPosition (by omega),
    Nat.zero_add, decide_eq_false (by omega)]

end Courier.MemorySource
