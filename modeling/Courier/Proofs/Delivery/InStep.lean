import Courier.Proofs.Delivery.Chunks
import Courier.Proofs.Delivery.Heads
import Courier.Proofs.Delivery.Slices
import Courier.Connection.Planned

/-
  Streaming keeps the source, the wire, the counter and the
  result in step, whatever fails. The statement holds for every
  connection and for every source that answers no more bytes
  than it was asked for.

  Key definitions include:
    * `Ranged.InStep`

  Main statements:
    * `Ranged.stream_inStep`
-/

namespace Courier.Ranged

open Exchange Trace

variable {τ σ : Type} [Connection τ] [ByteSource σ]

------------------------------------------------------------
-- Being in step
------------------------------------------------------------

/-
  What holds of the events and the result of a delivery of a
  part of content of a given length.
-/
structure InStep
    (length chunkSize : Nat)
    (rangeHeader : Option String)
    (es : List Event)
    (result : Result) : Prop where
  -- one attempt to send the head, then pairs
  framed :
    ∃ head rest,
      calls es = head :: rest ∧ head.IsHead ∧ Framed rest
  -- a failed write or flush is the last call
  silent :
    ∀ before call after,
      calls es = before ++ call :: after →
        call.IsFailure → after = []
  written_eq_returned : written es = returned es
  -- nothing is written that was not announced
  announced :
    written es ≠ [] →
      ∃ start stop asked status headers,
        verdict length chunkSize rangeHeader =
            .part start stop asked ∧
          .head status headers (.ok ()) ∈ es ∧
          headers.getAll "Content-Length" =
            [toString (stop - start + 1)] ∧
          headers.getAll "Content-Range" =
            [contentRange start stop length] ∧
          total (written es) ≤ stop - start + 1
  eq_total_flushed :
    ∀ n,
      result = .ok (.completed n) ∨
          result = .ok (.aborted n) →
        n = total (flushed es)
  failed_send :
    ∀ e,
      (∃ chunk, .write chunk (.error e) ∈ es) ∨
          .flush (.error e) ∈ es →
        result = stopped (total (flushed es)) e
  failed_read :
    ∀ n e, .read n (.error e) ∈ es → result = .error (.io e)
  -- the number of bytes in a part fits sixty-four bits
  part_fits :
    ∀ start stop asked,
      verdict length chunkSize rangeHeader =
          .part start stop asked →
        start ≤ stop ∧ stop - start + 1 < 2 ^ 64
  -- so do the bytes that are owed, and the count after a read
  read_fits :
    ∀ before n answer after,
      es = before ++ .read n answer :: after →
        ∃ start stop asked,
          verdict length chunkSize rangeHeader =
              .part start stop asked ∧
            total (flushed before) < stop - start + 1 ∧
            n = min chunkSize
              (stop - start + 1 - total (flushed before)) ∧
            ∀ chunk last, answer = .ok (chunk, last) →
              total (flushed before) + chunk.size ≤
                stop - start + 1

namespace InStep

variable {length chunkSize : Nat}
variable {rangeHeader : Option String}

/- A part of content that is not too long is not either. -/
theorem fits
    (hLength : length < 2 ^ 64)
    (start stop : Nat)
    (asked : Bool)
    (hVerdict :
      verdict length chunkSize rangeHeader =
        .part start stop asked) :
    start ≤ stop ∧ stop - start + 1 < 2 ^ 64 := by
  rcases le_and_lt_of_verdict_eq_part hVerdict with
    ⟨_, hLe, hLt⟩
  omega

/- A head alone is in step with a result without bytes. -/
theorem of_head
    {pre post : List Event}
    {head : Event}
    {result : Result}
    (hLength : length < 2 ^ 64)
    (hPre : ∀ e ∈ pre, e.IsAside)
    (hHead : head.IsHead)
    (hPost : ∀ e ∈ post, e.IsAside)
    (hResult :
      ∀ n,
        result = .ok (.completed n) ∨
            result = .ok (.aborted n) →
          n = 0) :
    InStep length chunkSize rangeHeader (pre ++ head :: post)
      result := by
  have hCalls : calls (pre ++ head :: post) = [head] := by
    rw [calls_append, calls_cons, if_pos (Or.inl hHead),
      calls_eq_nil hPre, calls_eq_nil hPost, List.nil_append]
  have hQuiet : ∀ e ∈ pre ++ head :: post, e.IsQuiet := by
    intro e he
    rcases List.mem_append.mp he with he | he
    · exact (hPre e he).1
    · rcases List.mem_cons.mp he with rfl | he
      · exact hHead.isQuiet
      · exact (hPost e he).1
  have hFlushed : flushed (pre ++ head :: post) = [] := by
    simpa [flushed] using flushed_append_of_quiet hQuiet []
  exact
    { framed := ⟨head, [], hCalls, hHead, .nil⟩
      silent := by
        intro before call after hSplit _
        rw [hCalls] at hSplit
        cases before with
        | nil => exact (List.cons.inj hSplit).2.symm
        | cons first before => simp at hSplit
      written_eq_returned := by
        rw [written_eq_nil hQuiet, returned_eq_nil hQuiet]
      announced := fun hWritten =>
        absurd (written_eq_nil hQuiet) hWritten
      eq_total_flushed := by
        intro n hCount
        rw [hResult n hCount, hFlushed, total_nil]
      failed_send := by
        intro e hFailed
        rcases hFailed with ⟨chunk, hWrite⟩ | hFlush
        · exact absurd trivial (hQuiet _ hWrite).1
        · exact absurd trivial (hQuiet _ hFlush).1
      failed_read := fun n e hRead =>
        absurd trivial (hQuiet _ hRead).2
      part_fits := fits hLength
      read_fits := by
        intro before n answer after hEvents
        have hRead :
            .read n answer ∈ pre ++ head :: post := by
          simp [hEvents]
        exact absurd trivial (hQuiet _ hRead).2 }

/-
  The sending loop, behind a head that announces the part and
  before the source is closed, is in step.
-/
theorem of_pumps
    [ByteSource.Bounded σ]
    {start stop status : Nat}
    {asked : Bool}
    {headers : WireHeaders}
    {pre es : List Event}
    {last : Event}
    {result : Result}
    {s s' : σ}
    (hLength : length < 2 ^ 64)
    (hVerdict :
      verdict length chunkSize rangeHeader =
        .part start stop asked)
    (hAnnounced :
      headers.getAll "Content-Length" =
        [toString (stop - start + 1)])
    (hRange :
      headers.getAll "Content-Range" =
        [contentRange start stop length])
    (hPre : ∀ e ∈ pre, e.IsAside)
    (hLast : last.IsAside)
    (hPumps :
      Pumps chunkSize (stop - start + 1) 0 s es result s') :
    InStep length chunkSize rangeHeader
      (pre ++ [.head status headers (.ok ())] ++ es ++ [last])
      result := by
  -- The head is one more event that sends no chunk.
  have hFront :
      ∀ e ∈ pre ++ [.head status headers (.ok ())],
        e.IsQuiet :=
    Event.isQuiet_of_mem_append_head hPre
  have hCalls :
      calls (pre ++ [.head status headers (.ok ())] ++ es
          ++ [last]) =
        .head status headers (.ok ()) :: calls es := by
    have hLastCalls : calls [last] = [] :=
      calls_eq_nil (by simpa using hLast)
    rw [calls_append, calls_append, calls_append,
      calls_eq_nil hPre, hLastCalls]
    simp [Event.IsHead]
  have hTotal :
      total (written es) ≤ stop - start + 1 := by
    have hBound :=
      hPumps.sent_add_total_written_le (Nat.zero_le _)
    omega
  exact
    { framed := ⟨_, _, hCalls, trivial, hPumps.framed⟩
      silent := by
        intro before call after hSplit hFailure
        rw [hCalls] at hSplit
        cases before with
        | nil =>
            rcases List.cons.inj hSplit with ⟨rfl, _⟩
            exact absurd hFailure id
        | cons first before =>
            exact hPumps.framed.eq_nil_of_isFailure
              (List.cons.inj hSplit).2 hFailure
      written_eq_returned := by
        rw [written_between hFront hLast.1,
          returned_between hFront hLast.1,
          hPumps.written_eq_returned]
      announced := by
        intro _
        rw [written_between hFront hLast.1]
        exact ⟨start, stop, asked, status, headers, hVerdict,
          by simp, hAnnounced, hRange, hTotal⟩
      eq_total_flushed := by
        intro n hCount
        rw [flushed_between hFront hLast.1,
          hPumps.eq_sent_add_total_flushed hCount,
          Nat.zero_add]
      failed_send := by
        intro e hFailed
        rw [flushed_between hFront hLast.1]
        have hInside :
            (∃ chunk, .write chunk (.error e) ∈ es) ∨
              .flush (.error e) ∈ es := by
          rcases hFailed with ⟨chunk, hWrite⟩ | hFlush
          · exact Or.inl ⟨chunk,
              mem_of_mem_between hFront hLast.1 hWrite
                fun hQuiet => hQuiet.1 trivial⟩
          · exact Or.inr
              (mem_of_mem_between hFront hLast.1 hFlush
                fun hQuiet => hQuiet.1 trivial)
        simpa using hPumps.eq_stopped_of_failed_send hInside
      failed_read := by
        intro n e hRead
        exact hPumps.eq_error_of_failed_read
          (mem_of_mem_between hFront hLast.1 hRead
            fun hQuiet => hQuiet.2 trivial)
      part_fits := fits hLength
      read_fits := by
        intro before n answer after hEvents
        rcases read_between hFront hLast.1 hEvents with
          ⟨inner, rest, hEs, hBefore⟩
        rw [hBefore]
        refine ⟨start, stop, asked, hVerdict, ?_⟩
        simpa using hPumps.read_within hEs }

end InStep

------------------------------------------------------------
-- Every run
------------------------------------------------------------

/- The one call of a response without a body is in step. -/
theorem inStep_of_fullCalls
    {length chunkSize status : Nat}
    {rangeHeader : Option String}
    {headers : WireHeaders}
    {pre es : List Event}
    {last : Event}
    {answer : Sent}
    {result : Result}
    (hLength : length < 2 ^ 64)
    (hPre : ∀ e ∈ pre, e.IsAside)
    (hCalls : FullCalls status headers .empty answer es)
    (hLast : last.IsAside)
    (hCount :
      ∀ n,
        result = .ok (.completed n) ∨
            result = .ok (.aborted n) →
          n = 0) :
    InStep length chunkSize rangeHeader (pre ++ es ++ [last])
      result := by
  have hPost : ∀ e ∈ [last], e.IsAside := by
    simpa using hLast
  rw [List.append_assoc]
  rcases hCalls.of_empty with rfl | rfl
  · exact .of_head hLength hPre trivial hPost hCount
  · exact .of_head hLength hPre trivial hPost hCount

/- Every run up to the end of the sending is in step. -/
theorem Sends.inStep
    [ByteSource.Bounded σ]
    {source source' : σ}
    {status : Nat}
    {contentType rangeHeader : Option String}
    {settings : StreamSettings}
    {w : WireHeaders}
    {es : List Event}
    {result : Result}
    {last : Event}
    (hLength : ByteSource.length source < 2 ^ 64)
    (hSends :
      Sends source status contentType rangeHeader settings w es
        result source')
    (hLast : last.IsAside) :
    InStep (ByteSource.length source) settings.chunkSize
      rangeHeader (es ++ [last]) result := by
  have hEdits :
      ∀ edits : List HeaderEdit,
        ∀ e ∈ edits.map Event.edit, e.IsAside := by
    simp
  cases hSends with
  | @bodyless v b answer es hVerdict hBody hCalls =>
      exact inStep_of_fullCalls hLength (hEdits _) hCalls hLast
        (eq_zero_of_bodyless hBody answer)
  | @exhausted start _ _ _ answer edits es _ _ _ hCalls =>
      have hPre :
          ∀ e ∈ (edits.map Event.edit ++ [.skip start true]) ++
              (refusalEdits none).map Event.edit,
            e.IsAside := by
        intro e he
        rcases List.mem_append.mp he with he | he
        · exact Event.isAside_edits_skip edits start true e he
        · exact hEdits (refusalEdits none) e he
      have hRefused :
          InStep (ByteSource.length source) settings.chunkSize
            rangeHeader
            ((edits.map Event.edit ++ [.skip start true]) ++
              (refusalEdits none).map Event.edit ++ es ++
              [last])
            (ifSent answer (.ok (.rejected 400))) :=
        inStep_of_fullCalls hLength hPre hCalls hLast
          (by cases answer <;> simp [ifSent])
      simpa using hRefused
  | @unsent start stop asked _ edits e =>
      have hPost : ∀ e ∈ [last], e.IsAside := by
        simpa using hLast
      have hHead :
          InStep (ByteSource.length source) settings.chunkSize
            rangeHeader
            ((edits.map Event.edit ++ [.skip start false]) ++
              .head (partStatus asked status)
                (applyEdits w edits) (.error e) :: [last])
            (.error (.send e)) :=
        .of_head hLength (Event.isAside_edits_skip edits start false)
          trivial hPost (by simp)
      simpa using hHead
  | @served start stop asked _ _ edits es _ hVerdict _ hHeaders
      hPumps =>
      have hAnnounced :
          (applyEdits w edits).getAll "Content-Length" =
            [toString (stop - start + 1)] := by
        rw [hHeaders, applyEdits_append]
        exact getAll_contentLength_partEdits _ _ _ _
      have hRange :
          (applyEdits w edits).getAll "Content-Range" =
            [contentRange start stop
              (ByteSource.length source)] := by
        rw [hHeaders, applyEdits_append]
        exact getAll_contentRange_partEdits _ _ _ _
      have hServed :
          InStep (ByteSource.length source) settings.chunkSize
            rangeHeader
            ((edits.map Event.edit ++ [.skip start false]) ++
              [.head (partStatus asked status)
                (applyEdits w edits) (.ok ())] ++ es ++ [last])
            result :=
        .of_pumps hLength hVerdict hAnnounced hRange
          (Event.isAside_edits_skip edits start false) hLast hPumps
      simpa using hServed

/-
  However the connection, the source and the client behave, a
  streamed delivery is in step. From a buffer in memory it
  writes the bytes of the part, up to where it is broken off.
-/
theorem stream_inStep
    [ByteSource.Bounded σ]
    (status : Nat)
    (contentType rangeHeader : Option String)
    (settings : StreamSettings)
    (x : Exchange τ) :
    (∀ source : σ,
      ByteSource.length source < 2 ^ 64 →
        let run :=
          perform
            (stream source status contentType rangeHeader
              settings) x
        InStep (ByteSource.length source) settings.chunkSize
          rangeHeader (since x run.2) run.1) ∧
      ∀ (data : ByteArray) (start stop : Nat) (asked : Bool),
        verdict data.size settings.chunkSize rangeHeader =
            .part start stop asked →
          let run :=
            perform
              (stream (MemorySource.ofBytes data) status
                contentType rangeHeader settings) x
          ∃ rest,
            joined (written (since x run.2)) ++ rest =
              data.extract start (stop + 1) := by
  constructor
  · intro source hLength
    rcases perform_stream source status contentType
        rangeHeader settings x with
      ⟨result, source', es, x', hRun, hSends, hLeads⟩
    rw [hRun]
    simp only [hLeads.since_eq]
    exact hSends.inStep hLength (Event.isAside_close _)
  · intro data start stop asked hVerdict
    rcases perform_stream (MemorySource.ofBytes data) status
        contentType rangeHeader settings x with
      ⟨result, source', es, x', hRun, hSends, hLeads⟩
    rcases hSends.joined_written hVerdict with ⟨rest, hRest⟩
    rw [hRun]
    refine ⟨rest, ?_⟩
    simpa [hLeads.since_eq, written?] using hRest

/- Five bytes in chunks of two, to a client that goes away. -/
theorem stream_inStep_of_client_gone :
    let data : ByteArray := ⟨#[1, 2, 3, 4, 5]⟩
    let settings : StreamSettings := { chunkSize := 2 }
    let x : Exchange PlannedConnection :=
      .start { closeAfter := some 1 }
    let run :=
      perform
        (stream (MemorySource.ofBytes data) 200 none
          (some "bytes=1-") settings) x
    verdict data.size 2 (some "bytes=1-") = .part 1 4 true ∧
      InStep 5 2 (some "bytes=1-") (since x run.2) run.1 ∧
      ∃ rest,
        joined (written (since x run.2)) ++ rest =
          data.extract 1 5 := by
  intro data settings x run
  have hVerdict :
      verdict data.size 2 (some "bytes=1-") =
        .part 1 4 true := by
    decide +kernel
  have hInStep :=
    stream_inStep (σ := MemorySource) 200 none
      (some "bytes=1-") settings x
  exact ⟨hVerdict,
    hInStep.1 (MemorySource.ofBytes data) (by decide),
    hInStep.2 data 1 4 true hVerdict⟩

end Courier.Ranged
