import Courier.Proofs.Exchange.Trace
import Courier.Proofs.Source.Calls
import Courier.Proofs.Source.File
import Courier.Proofs.Source.Memory
import Mathlib.Algebra.GroupWithZero.Nat

/-
  A buffer in memory and a file that holds the same bytes are
  the same source. Both are a byte string with a position in it,
  and any sequence of reads and skips finds the same answers,
  the same lengths and the same positions.

  Key definitions include:
    * `ByteSource.Serves`
    * `ByteSource.Tracks`
    * `FileSource.atPosition`

  Main statements:
    * `ByteSource.Tracks.serves`
    * `ByteSource.Tracks.alike`
    * `ByteSource.Tracks.joined_reads`
    * `MemorySource.tracks_atPosition`
    * `FileSource.tracks_atPosition`
    * `ByteSource.memory_file_agree`
-/

namespace Courier

namespace ByteSource

open Trace

variable {σ ρ : Type} [ByteSource σ] [ByteSource ρ]

------------------------------------------------------------
-- A byte string with a position
------------------------------------------------------------

/-
  The next call on the source is answered from these bytes: a
  read gets those from the position on and moves behind them, a
  skip moves on, and both tell whether that is the end.
-/
structure Serves
    (data : ByteArray)
    (s : σ) : Prop where
  length_eq : ByteSource.length s = data.size
  position_le : ByteSource.position s ≤ data.size
  read_eq :
    ∀ n,
      let p := ByteSource.position s
      let k := min n (data.size - p)
      (ByteSource.read n s).1 =
          .ok (data.extract p (p + k),
            decide (p + k = data.size)) ∧
        ByteSource.position (ByteSource.read n s).2 = p + k
  skip_eq :
    ∀ n,
      let q := min (ByteSource.position s + n) data.size
      (ByteSource.skip n s).1 = decide (q = data.size) ∧
        ByteSource.position (ByteSource.skip n s).2 = q

/-
  A state for each position in a byte string. Calls lead from
  one of them to another.
-/
structure Tracks
    (data : ByteArray)
    (state : Nat → σ) : Prop where
  length_eq : ∀ p, ByteSource.length (state p) = data.size
  position_eq : ∀ p, ByteSource.position (state p) = p
  read_eq :
    ∀ p n,
      p ≤ data.size →
        ByteSource.read n (state p) =
          (.ok (data.extract p (min (p + n) data.size),
              decide (min (p + n) data.size = data.size)),
            state (min (p + n) data.size))
  skip_eq :
    ∀ p n,
      ByteSource.skip n (state p) =
        (decide (min (p + n) data.size = data.size),
          state (min (p + n) data.size))

namespace Tracks

variable {data : ByteArray} {state : Nat → σ}
variable {other : Nat → ρ} {p : Nat}

/- The bytes are served from the position on. -/
theorem serves
    (hTracks : Tracks data state)
    (hWithin : p ≤ data.size) :
    Serves data (state p) where
  length_eq := hTracks.length_eq p
  position_le := by
    rw [hTracks.position_eq]
    exact hWithin
  read_eq n := by
    have hReach :
        p + min n (data.size - p) = min (p + n) data.size := by
      omega
    simp only [hTracks.position_eq, hReach,
      hTracks.read_eq p n hWithin, and_self]
  skip_eq n := by
    simp only [hTracks.position_eq, hTracks.skip_eq, and_self]

/- A call leads to a position that is not before this one. -/
theorem exists_call_eq
    (hTracks : Tracks data state)
    (hWithin : p ≤ data.size)
    (c : SourceCall) :
    ∃ q,
      (call (state p) c).2 = state q ∧
        p ≤ q ∧ q ≤ data.size := by
  cases c with
  | read upTo =>
      refine ⟨min (p + upTo) data.size, ?_, by omega, by omega⟩
      simp only [call, hTracks.read_eq p upTo hWithin]
  | skip count =>
      refine ⟨min (p + count) data.size, ?_, by omega, by omega⟩
      simp only [call, hTracks.skip_eq]

/- So do calls in order. -/
theorem exists_after_eq
    (hTracks : Tracks data state)
    (hWithin : p ≤ data.size)
    (calls : List SourceCall) :
    ∃ q,
      after (state p) calls = state q ∧
        p ≤ q ∧ q ≤ data.size := by
  induction calls generalizing p with
  | nil => exact ⟨p, rfl, Nat.le_refl p, hWithin⟩
  | cons c rest ih =>
      rcases hTracks.exists_call_eq hWithin c with
        ⟨q, hCall, hLe, hEnd⟩
      rcases ih hEnd with ⟨q', hAfter, hLe', hEnd'⟩
      refine ⟨q', ?_, Nat.le_trans hLe hLe', hEnd'⟩
      rw [after_cons, hCall, hAfter]

/- The position after calls is not before the one they found. -/
theorem position_le_after
    (hTracks : Tracks data state)
    (hWithin : p ≤ data.size)
    (calls : List SourceCall) :
    p ≤ ByteSource.position (after (state p) calls) := by
  rcases hTracks.exists_after_eq hWithin calls with
    ⟨q, hAfter, hLe, _⟩
  rw [hAfter, hTracks.position_eq]
  exact hLe

/- States at one position in the same bytes are alike. -/
theorem alike
    (hTracks : Tracks data state)
    (hOther : Tracks data other) :
    Alike fun s t =>
      ∃ p, p ≤ data.size ∧ s = state p ∧ t = other p where
  length_eq := by
    rintro _ _ ⟨p, _, rfl, rfl⟩
    rw [hTracks.length_eq, hOther.length_eq]
  position_eq := by
    rintro _ _ ⟨p, _, rfl, rfl⟩
    rw [hTracks.position_eq, hOther.position_eq]
  read := by
    rintro n _ _ ⟨p, hWithin, rfl, rfl⟩
    rw [hTracks.read_eq p n hWithin, hOther.read_eq p n hWithin]
    exact ⟨rfl, _, Nat.min_le_right _ _, rfl, rfl⟩
  skip := by
    rintro n _ _ ⟨p, _, rfl, rfl⟩
    rw [hTracks.skip_eq, hOther.skip_eq]
    exact ⟨rfl, _, Nat.min_le_right _ _, rfl, rfl⟩

/- Reads without skips answer the bytes in order. -/
theorem joined_reads
    (hTracks : Tracks data state)
    (hWithin : p ≤ data.size)
    (sizes : List Nat) :
    joined
        (SourceAnswer.chunks
          (answers (state p) (sizes.map .read))) =
      data.extract p (min (p + sizes.sum) data.size) := by
  induction sizes generalizing p with
  | nil =>
      rw [List.sum_nil, Nat.add_zero, Nat.min_eq_left hWithin,
        ByteArray.extract_same]
      rfl
  | cons n rest ih =>
      have hNext : min (p + n) data.size ≤ data.size :=
        Nat.min_le_right _ _
      have hEnd :
          min (min (p + n) data.size + rest.sum) data.size =
            min (p + (n + rest.sum)) data.size := by
        omega
      simp only [List.map_cons, answers, call,
        hTracks.read_eq p n hWithin,
        SourceAnswer.chunks_cons_read, joined_cons, ih hNext,
        hEnd, List.sum_cons]
      rw [← ByteArray.extract_eq_extract_append_extract]
      · omega
      · omega

end Tracks

end ByteSource

------------------------------------------------------------
-- Buffers and files
------------------------------------------------------------

variable {data : ByteArray}

/- A buffer is tracked by its position. -/
theorem MemorySource.tracks_atPosition :
    ByteSource.Tracks data (MemorySource.atPosition data) where
  length_eq _ := rfl
  position_eq _ := rfl
  read_eq p n hWithin := by
    have hNext :=
      (atPosition data p).cursor.position_add_nextRead hWithin n
    have hAdvance :
        ((atPosition data p).cursor.advance
            ((atPosition data p).cursor.nextRead n)) =
          ⟨min (p + n) data.size, data.size⟩ := by
      change Cursor.mk (min (p + _) data.size) data.size = _
      rw [show p + _ = _ from hNext]
      congr 1
      exact Nat.min_eq_left (Nat.min_le_right _ _)
    change MemorySource.read n (atPosition data p) = _
    rw [MemorySource.read, Cursor.isExhausted_advance, hAdvance,
      hNext]
    rfl
  skip_eq p n := by
    change MemorySource.skip n (atPosition data p) = _
    rw [MemorySource.skip, Cursor.isExhausted_advance]
    rfl

/- The source over an open file with its cursor at a position. -/
def FileSource.atPosition
    (content : ByteArray)
    (position : Nat) : FileSource :=
  ⟨content, true, ⟨position, content.size⟩⟩

/- A file that holds all its bytes is tracked by its position. -/
theorem FileSource.tracks_atPosition :
    ByteSource.Tracks data (FileSource.atPosition data) where
  length_eq _ := rfl
  position_eq _ := rfl
  read_eq p n hWithin := by
    have hRead :=
      read_of_open (s := atPosition data p) rfl hWithin n
    -- The file holds all the bytes that it held when opened.
    have hReached :
        reached p (min n (data.size - p)) data.size
            (data.extract p (min (p + n) data.size)) =
          min (p + n) data.size := by
      rw [reached, ByteArray.size_extract, if_neg (by omega)]
      omega
    refine hRead.trans ?_
    simp only [atPosition, hReached]
  skip_eq p n := by
    change FileSource.skip n (atPosition data p) = _
    rw [FileSource.skip, Cursor.isExhausted_advance]
    rfl

------------------------------------------------------------
-- The same source
------------------------------------------------------------

namespace ByteSource

open Trace

/-
  What holds of a buffer and a file behind the same calls, when
  both hold these bytes.
-/
structure SameSource
    (data : ByteArray)
    (memory : MemorySource)
    (file : FileSource) : Prop where
  memory_serves : Serves data memory
  file_serves : Serves data file
  position_eq :
    ByteSource.position file = ByteSource.position memory
  -- no read cuts a slice that the buffer does not have
  slice_le :
    ∀ upTo,
      memory.cursor.position + memory.cursor.nextRead upTo ≤
        memory.data.size
  -- a sum that stops at the largest word leads to the same place
  saturated :
    data.size < 2 ^ 64 →
      ∀ n,
        ByteSource.position (ByteSource.skip n memory).2 =
          min
            (min (ByteSource.position memory + n) (2 ^ 64 - 1))
            data.size
  -- nor does it matter how the system portions the bytes
  portioned :
    ∀ portions upTo,
      (∀ cause, .failed cause ∉ portions) →
        file.readIn portions upTo = ByteSource.read upTo file

/- It holds of both at every position. -/
theorem sameSource_atPosition
    {data : ByteArray}
    {p : Nat}
    (hWithin : p ≤ data.size) :
    SameSource data (MemorySource.atPosition data p)
      (FileSource.atPosition data p) where
  memory_serves := MemorySource.tracks_atPosition.serves hWithin
  file_serves := FileSource.tracks_atPosition.serves hWithin
  position_eq := rfl
  slice_le upTo := by
    have hNext :=
      (MemorySource.atPosition data
        p).cursor.position_add_nextRead hWithin upTo
    rw [hNext]
    exact Nat.min_le_right _ _
  saturated hSize n :=
    Cursor.position_advance_of_saturated
      (c := ⟨p, data.size⟩) (Nat.le_sub_one_of_lt hSize) n
  portioned portions upTo hSound := by
    rcases (FileSource.atPosition data
        p).readIn_eq_or_failed portions upTo with
      hSame | ⟨cause, hMem, _⟩
    · exact hSame
    · exact absurd hMem (hSound cause)

/-
  A buffer and a file that hold the same bytes answer the same
  calls alike, each from the position that the calls before it
  led to, and reads alone answer the bytes in order.
-/
theorem memory_file_agree
    (data : ByteArray)
    (calls : List SourceCall) :
    let memory := MemorySource.ofBytes data
    let file := FileSource.ofContent data
    answers file calls = answers memory calls ∧
      SameSource data (after memory calls) (after file calls) ∧
      (∀ later,
        ByteSource.position (after memory calls) ≤
          ByteSource.position
            (after memory (calls ++ later))) ∧
      ∀ sizes : List Nat,
        calls = sizes.map .read →
          let chunks :=
            SourceAnswer.chunks (answers memory calls)
          joined chunks =
              data.extract 0 (min sizes.sum data.size) ∧
            (data.size ≤ sizes.sum → joined chunks = data) := by
  intro memory file
  have hMemory :
      Tracks data (MemorySource.atPosition data) :=
    MemorySource.tracks_atPosition
  have hFile : Tracks data (FileSource.atPosition data) :=
    FileSource.tracks_atPosition
  have hAlike := hFile.alike hMemory
  have hStart :
      ∃ p, p ≤ data.size ∧ file = FileSource.atPosition data p ∧
        memory = MemorySource.atPosition data p :=
    ⟨0, Nat.zero_le _, rfl, rfl⟩
  rcases hAlike.after hStart calls with
    ⟨p, hWithin, hFileAfter, hMemoryAfter⟩
  refine ⟨hAlike.answers_eq hStart calls, ?_, ?_, ?_⟩
  · rw [hFileAfter, hMemoryAfter]
    exact sameSource_atPosition hWithin
  · intro later
    rw [after_append, hMemoryAfter, hMemory.position_eq]
    exact hMemory.position_le_after hWithin later
  · rintro sizes rfl chunks
    have hJoined := hMemory.joined_reads (Nat.zero_le _) sizes
    rw [Nat.zero_add] at hJoined
    refine ⟨hJoined, ?_⟩
    intro hAll
    rw [Nat.min_eq_right hAll,
      ByteArray.extract_zero_size] at hJoined
    exact hJoined

end ByteSource

end Courier
