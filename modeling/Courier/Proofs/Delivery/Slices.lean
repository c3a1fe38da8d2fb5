import Courier.Proofs.Delivery.Chunks
import Courier.Proofs.Delivery.Sends
import Courier.Proofs.Range.Resolve
import Courier.Proofs.Source.Memory

/-
  What is written when a buffer in memory is streamed: the bytes
  of the part, in order, from its first byte on.

  Main statements:
    * `Ranged.Pumps.joined_written`
    * `Ranged.Sends.joined_written`
-/

namespace Courier.Ranged

open Exchange Trace MemorySource

/- A buffer answers the next bytes of a part that it holds. -/
theorem read_part
    {data : ByteArray}
    {position upTo owed : Nat}
    (hWithin : position + owed ≤ data.size)
    {chunk : ByteArray} {last : Bool} {s' : MemorySource}
    (hRead :
      ByteSource.read (min upTo owed)
          (atPosition data position) = (.ok (chunk, last), s')) :
    chunk =
        data.extract position (position + min upTo owed) ∧
      chunk.size = min upTo owed ∧
      last = decide (data.size ≤ position + min upTo owed) ∧
      s' = atPosition data (position + chunk.size) := by
  have hFits : position + min upTo owed ≤ data.size := by omega
  rw [read_atPosition hFits] at hRead
  rcases Prod.mk.inj hRead with ⟨hAnswer, hSource⟩
  rcases Prod.mk.inj (Except.ok.inj hAnswer) with
    ⟨hChunk, hLast⟩
  have hSize : chunk.size = min upTo owed := by
    rw [← hChunk, ByteArray.size_extract]
    omega
  exact ⟨hChunk.symm, hSize, hLast.symm, by
    rw [hSize, hSource]⟩

/- The chunks of a part are written in order. -/
theorem Pumps.joined_written
    {data : ByteArray}
    {position chunkSize owed sent : Nat}
    {s s' : MemorySource}
    {es : List Event}
    {result : Result}
    (h : Pumps chunkSize owed sent s es result s')
    (hSource : s = atPosition data position)
    (hWithin : position + (owed - sent) ≤ data.size) :
    joined (written es) =
        data.extract position
          (position + total (written es)) := by
  induction h generalizing position with
  | done => simp
  | gone => simp [written?]
  | unread => simp [written?]
  | broken hOwed hRead hCalls =>
      subst hSource
      rcases read_part hWithin hRead with
        ⟨hChunk, hSize, _, _⟩
      cases hCalls <;> simp [written?, hSize, ← hChunk]
  | ended hOwed hRead =>
      subst hSource
      rcases read_part hWithin hRead with
        ⟨hChunk, hSize, _, _⟩
      simp [written?, hSize, ← hChunk]
  | @round sent _ _ _ chunk es _ hOwed hRead hPos _ ih =>
      subst hSource
      rcases read_part hWithin hRead with
        ⟨hChunk, hSize, _, hNext⟩
      have hRest := ih hNext (by omega)
      rw [← hSize] at hChunk
      have hFirst : position ≤ position + chunk.size := by
        omega
      have hSecond :
          position + chunk.size ≤
            position + chunk.size + total (written es) := by
        omega
      simp [written?]
      rw [hRest, ← Nat.add_assoc,
        ByteArray.extract_eq_extract_append_extract _ hFirst
          hSecond, ← hChunk]

/- What is written is the part, up to where it is broken off. -/
theorem Sends.joined_written
    {data : ByteArray}
    {status : Nat}
    {contentType rangeHeader : Option String}
    {settings : StreamSettings}
    {w : WireHeaders}
    {es : List Event}
    {result : Result}
    {s' : MemorySource}
    (hSends :
      Sends (ofBytes data) status contentType rangeHeader
        settings w es result s')
    {start stop : Nat}
    {asked : Bool}
    (hVerdict :
      verdict data.size settings.chunkSize rangeHeader =
        .part start stop asked) :
    ∃ rest,
      joined (written es) ++ rest =
        data.extract start (stop + 1) := by
  rcases le_and_lt_of_verdict_eq_part hVerdict with
    ⟨_, hLe, hLt⟩
  have hSkipped :=
    skip_ofBytes (Nat.lt_of_le_of_lt hLe hLt)
  have hQuiet :
      ∀ edits : List HeaderEdit,
        written (edits.map Event.edit) = [] := by
    intro edits
    apply written_eq_nil
    intro e he
    rcases List.mem_map.mp he with ⟨change, _, rfl⟩
    exact (Event.isAside_edit change).1
  cases hSends with
  | bodyless hOther hBody =>
      rw [length_ofBytes, hVerdict] at hOther
      rw [← hOther] at hBody
      cases hBody
  | exhausted hOther hSkip =>
      rw [length_ofBytes, hVerdict] at hOther
      cases hOther
      rw [hSkipped] at hSkip
      cases hSkip
  | unsent hOther =>
      exact ⟨data.extract start (stop + 1), by
        simp [hQuiet, written?]⟩
  | @served _ _ _ source' _ edits es _ hOther hSkip _ hPumps =>
      rw [length_ofBytes, hVerdict] at hOther
      cases hOther
      rw [hSkipped] at hSkip
      cases hSkip
      have hTotal :=
        hPumps.sent_add_total_written_le (Nat.zero_le _)
      refine ⟨data.extract (start + total (written es))
        (stop + 1), ?_⟩
      simp only [written_append, hQuiet, List.nil_append,
        written_cons, written?, Option.toList_none]
      rw [hPumps.joined_written rfl (by omega),
        ← ByteArray.extract_eq_extract_append_extract]
      · omega
      · omega

end Courier.Ranged
