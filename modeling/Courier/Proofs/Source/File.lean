import Courier.Source.File

/-
  Files as sources. However the system portions the bytes of a
  read, the source answers those that the file holds from its
  position on, up to the length that the file had when it was
  opened or to where the file ends by now.

  Key definitions include:
    * `FileSource.reached`

  Main statements:
    * `FileSource.fill_eq_or_failed`
    * `FileSource.read_of_open`
    * `FileSource.readIn_eq_or_failed`
-/

namespace Courier

------------------------------------------------------------
-- The cursor
------------------------------------------------------------

namespace Cursor

/- The next read asks for no byte behind the end. -/
theorem position_add_nextRead
    {c : Cursor}
    (hWithin : c.position ≤ c.length)
    (upTo : Nat) :
    c.position + c.nextRead upTo =
      min (c.position + upTo) c.length := by
  simp only [nextRead, remaining]
  omega

/- A cursor within its content stays there. -/
theorem position_advance_le
    (c : Cursor)
    (n : Nat) :
    (c.advance n).position ≤ c.length :=
  Nat.min_le_right _ _

/- A cursor within its content never moves back. -/
theorem le_position_advance
    {c : Cursor}
    (hWithin : c.position ≤ c.length)
    (n : Nat) :
    c.position ≤ (c.advance n).position := by
  simp only [advance]
  omega

/- Within its content a cursor is exhausted at the end only. -/
theorem isExhausted_advance
    (c : Cursor)
    (n : Nat) :
    (c.advance n).isExhausted =
      decide ((c.advance n).position = c.length) := by
  have hWithin := c.position_advance_le n
  apply decide_eq_decide.mpr
  change c.length ≤ (c.advance n).position ↔ _
  omega

/-
  A sum that stops at the largest word leads to the same place,
  as long as the content is no longer than a word can say.
-/
theorem position_advance_of_saturated
    {c : Cursor}
    {limit : Nat}
    (hLength : c.length ≤ limit)
    (n : Nat) :
    (c.advance n).position =
      min (min (c.position + n) limit) c.length := by
  simp only [advance]
  omega

end Cursor

namespace FileSource

------------------------------------------------------------
-- Portions
------------------------------------------------------------

/- A stretch of bytes ends where the bytes end. -/
theorem extract_min_size
    (bytes : ByteArray)
    (start stop : Nat) :
    bytes.extract start (min stop bytes.size) =
      bytes.extract start stop := by
  by_cases hStop : stop ≤ bytes.size
  · rw [Nat.min_eq_left hStop]
  · rw [Nat.min_eq_right (by omega)]
    by_cases hStart : start ≤ bytes.size
    · have hRest : bytes.extract bytes.size stop = .empty :=
        ByteArray.extract_eq_empty_iff.mpr
          (Nat.min_le_right _ _)
      rw [ByteArray.extract_eq_extract_append_extract
          (i := start) (k := stop) bytes.size hStart (by omega),
        hRest, ByteArray.append_empty]
    · rw [ByteArray.extract_eq_empty_iff.mpr (by omega),
        ByteArray.extract_eq_empty_iff.mpr (by omega)]

/- A stretch is told by where it starts and by its size. -/
theorem extract_add_size
    (bytes : ByteArray)
    (start stop : Nat) :
    bytes.extract start
        (start + (bytes.extract start stop).size) =
      bytes.extract start stop := by
  rw [ByteArray.size_extract]
  by_cases hEmpty : min stop bytes.size ≤ start
  · rw [ByteArray.extract_eq_empty_iff.mpr hEmpty,
      Nat.sub_eq_zero_of_le hEmpty, Nat.add_zero,
      ByteArray.extract_same]
  · rw [Nat.add_sub_cancel' (by omega), extract_min_size]

/-
  The requests end with the bytes that one complete request
  would give, or with the failure of one of them.
-/
theorem fill_eq_or_failed
    (content : ByteArray)
    (offset wanted : Nat)
    (portions : List Portion) :
    fill content offset wanted portions =
        .ok (content.extract offset (offset + wanted)) ∨
      ∃ cause,
        .failed cause ∈ portions ∧
          fill content offset wanted portions =
            .error cause := by
  induction portions generalizing offset wanted with
  | nil =>
      left
      unfold fill
      split
      · next hNone => simp [hNone]
      · rfl
  | cons portion rest ih =>
      unfold fill
      by_cases hNone : wanted = 0
      · simp [hNone]
      rw [if_neg hNone]
      cases portion with
      | interrupted =>
          rcases ih offset wanted with hAll | ⟨e, hMem, hFail⟩
          · exact Or.inl hAll
          · exact Or.inr
              ⟨e, List.mem_cons_of_mem _ hMem, hFail⟩
      | failed cause =>
          exact Or.inr ⟨cause, List.mem_cons_self, rfl⟩
      | bytes more =>
          have hSize :=
            ByteArray.size_extract (a := content) (b := offset)
              (e := offset + min (more + 1) wanted)
          have hFirst :=
            extract_add_size content offset
              (offset + min (more + 1) wanted)
          simp only
          generalize
            content.extract offset
              (offset + min (more + 1) wanted) = chunk
              at hSize hFirst ⊢
          by_cases hEnd : chunk.isEmpty
          · -- Not one byte is left from here on.
            have hZero : chunk.size = 0 := by
              simpa [ByteArray.isEmpty] using hEnd
            left
            rw [if_pos hEnd]
            congr 1
            symm
            rw [ByteArray.extract_eq_empty_iff]
            omega
          · rw [if_neg hEnd]
            rcases ih (offset + chunk.size)
                (wanted - chunk.size) with
              hAll | ⟨e, hMem, hFail⟩
            · left
              have hStop :
                  offset + chunk.size + (wanted - chunk.size) =
                    offset + wanted := by
                omega
              rw [hAll, hStop]
              change Except.ok (chunk ++ _) = _
              rw [ByteArray.extract_eq_extract_append_extract
                  (i := offset) (k := offset + wanted)
                  (offset + chunk.size) (by omega) (by omega),
                hFirst]
            · right
              refine ⟨e, List.mem_cons_of_mem _ hMem, ?_⟩
              rw [hFail]
              rfl

------------------------------------------------------------
-- Reads
------------------------------------------------------------

/-
  Where a read ends that got a chunk: behind it, or at the end
  when the file ended before the read was complete.
-/
def reached
    (position wanted length : Nat)
    (chunk : ByteArray) : Nat :=
  if chunk.size < wanted then length
  else position + chunk.size

variable {s : FileSource}

/- No read answers more bytes than it was asked for. -/
instance : ByteSource.Bounded FileSource where
  size_read_le n s chunk last hRead := by
    change (s.readIn [] n).1 = .ok (chunk, last) at hRead
    have hNext : s.cursor.nextRead n ≤ n := Nat.min_le_right _ _
    cases hOpen : s.isOpen with
    | false => simp [readIn, hOpen] at hRead
    | true =>
        rcases fill_eq_or_failed s.content s.cursor.position
            (s.cursor.nextRead n) [] with
          hAll | ⟨_, hMem, _⟩
        · simp only [readIn, hOpen, if_true, hAll] at hRead
          have hChunk :
              s.content.extract s.cursor.position
                  (s.cursor.position + s.cursor.nextRead n) =
                chunk := by
            split at hRead <;>
              exact (Prod.mk.inj (Except.ok.inj hRead)).1
          rw [← hChunk, ByteArray.size_extract]
          omega
        · cases hMem

/- A source that is closed fails to read and stays. -/
theorem readIn_of_closed
    (hClosed : s.isOpen = false)
    (portions : List Portion)
    (upTo : Nat) :
    s.readIn portions upTo = (.error .sourceClosed, s) := by
  rw [readIn, hClosed]
  rfl

/-
  An open source answers the bytes that the file holds, up to
  the length that it had when it was opened.
-/
theorem read_of_open
    (hOpen : s.isOpen = true)
    (hWithin : s.cursor.position ≤ s.cursor.length)
    (upTo : Nat) :
    let chunk :=
      s.content.extract s.cursor.position
        (min (s.cursor.position + upTo) s.cursor.length)
    let position :=
      reached s.cursor.position
        (min upTo (s.cursor.length - s.cursor.position))
        s.cursor.length chunk
    s.read upTo =
      (.ok (chunk, decide (position = s.cursor.length)),
        { s with cursor := ⟨position, s.cursor.length⟩ }) := by
  intro chunk position
  have hNext :
      s.cursor.nextRead upTo =
        min upTo (s.cursor.length - s.cursor.position) :=
    Nat.min_comm _ _
  have hFill :
      fill s.content s.cursor.position
          (s.cursor.nextRead upTo) [] = .ok chunk := by
    rcases fill_eq_or_failed s.content s.cursor.position
        (s.cursor.nextRead upTo) [] with hAll | ⟨_, hMem, _⟩
    · rw [hAll, s.cursor.position_add_nextRead hWithin]
    · cases hMem
  have hSize : chunk.size ≤ s.cursor.nextRead upTo := by
    have := s.cursor.position_add_nextRead hWithin upTo
    simp only [chunk, ByteArray.size_extract]
    omega
  rw [read, readIn, if_pos hOpen]
  simp only [hFill]
  by_cases hShort : chunk.size < s.cursor.nextRead upTo
  · have hEnd : position = s.cursor.length := by
      rw [hNext] at hShort
      exact if_pos hShort
    have hCursor :
        s.cursor.toEnd = ⟨position, s.cursor.length⟩ := by
      simp only [Cursor.toEnd, Cursor.advance, hEnd]
      rw [Nat.min_eq_right (Nat.le_add_left _ _)]
    rw [if_pos hShort, hCursor, decide_eq_true hEnd]
  · have hBehind : position = s.cursor.position + chunk.size := by
      rw [hNext] at hShort
      exact if_neg hShort
    have hLe := s.cursor.position_add_nextRead hWithin upTo
    have hCursor :
        s.cursor.advance chunk.size =
          ⟨position, s.cursor.length⟩ := by
      simp only [Cursor.advance, hBehind]
      rw [Nat.min_eq_left (by omega)]
    rw [if_neg hShort, Cursor.isExhausted_advance, hCursor]

/-
  However the system portions them, a read answers the same
  bytes, unless the system fails; then the source stays.
-/
theorem readIn_eq_or_failed
    (s : FileSource)
    (portions : List Portion)
    (upTo : Nat) :
    s.readIn portions upTo = s.read upTo ∨
      ∃ cause,
        .failed cause ∈ portions ∧
          s.readIn portions upTo = (.error cause, s) := by
  by_cases hOpen : s.isOpen
  · have hWhole :
        fill s.content s.cursor.position
            (s.cursor.nextRead upTo) [] =
          .ok (s.content.extract s.cursor.position
            (s.cursor.position + s.cursor.nextRead upTo)) := by
      rcases fill_eq_or_failed s.content s.cursor.position
          (s.cursor.nextRead upTo) [] with hAll | ⟨_, hMem, _⟩
      · exact hAll
      · cases hMem
    rcases fill_eq_or_failed s.content s.cursor.position
        (s.cursor.nextRead upTo) portions with
      hAll | ⟨cause, hMem, hFail⟩
    · left
      simp only [read, readIn, hOpen, if_true, hAll, hWhole]
    · right
      refine ⟨cause, hMem, ?_⟩
      simp only [readIn, hOpen, if_true, hFail]
  · rw [Bool.not_eq_true] at hOpen
    left
    rw [read, readIn_of_closed hOpen, readIn_of_closed hOpen]

end FileSource

end Courier
