import Courier.Proofs.Delivery.Heads
import Courier.Proofs.Delivery.Slices
import Courier.Proofs.Exchange.OpenConnection
import Courier.Proofs.Exchange.Signals
import Courier.Proofs.Range.Grammar

/-
  Streaming a buffer in memory over a connection that never
  fails. What the client sees is said without the engine: from
  what the header asks for and the bytes of the buffer.

  Key definitions include:
    * `Ranged.slices`
    * `Ranged.Answer`
    * `Ranged.answerTo`

  Main statements:
    * `Ranged.Pumps.signals_eq_pushes`
    * `Ranged.stream_gives_answerTo`
-/

namespace Courier.Ranged

open Exchange Trace MemorySource

------------------------------------------------------------
-- Slices
------------------------------------------------------------

/-
  The bytes from one position to another, cut into slices of one
  size; the last may be shorter.
-/
def slices
    (data : ByteArray)
    (start stop size : Nat) : List ByteArray :=
  (List.range ((stop - start) / size + 1)).map fun i =>
    data.extract (start + i * size)
      (min (start + (i + 1) * size) (stop + 1))

/- A part that fits one slice is not cut. -/
theorem slices_of_lt
    {start stop size : Nat}
    (hSize : stop - start < size)
    (data : ByteArray) :
    slices data start stop size =
      [data.extract start (stop + 1)] := by
  have hMin : min (start + size) (stop + 1) = stop + 1 := by
    omega
  simp [slices, Nat.div_eq_of_lt hSize, hMin]

/- A longer part starts with a full slice. -/
theorem slices_of_le
    {start stop size : Nat}
    (hPos : 0 < size)
    (hSize : size ≤ stop - start)
    (data : ByteArray) :
    slices data start stop size =
      data.extract start (start + size) ::
        slices data (start + size) stop size := by
  have hCount :
      (stop - start) / size + 1 =
        ((stop - (start + size)) / size + 1) + 1 := by
    rw [Nat.div_eq_sub_div hPos hSize, Nat.sub_add_eq]
  have hFirst : min (start + size) (stop + 1) = start + size :=
    by omega
  have hMove :
      ∀ i, start + (i + 1) * size = start + size + i * size := by
    intro i
    rw [Nat.succ_mul]
    omega
  rw [slices, hCount, List.range_succ_eq_map, List.map_cons,
    List.map_map, slices]
  simp only [Nat.zero_mul, Nat.add_zero, Nat.zero_add,
    Nat.one_mul, hFirst, Function.comp_def, Nat.succ_eq_add_one,
    hMove]

/- The slices of a part make up its length. -/
theorem total_slices
    {data : ByteArray}
    {start stop size : Nat}
    (hPos : 0 < size)
    (hLe : start ≤ stop)
    (hStop : stop < data.size) :
    total (slices data start stop size) = stop - start + 1 := by
  -- Each slice leaves fewer bytes of the part.
  induction hLeft : stop - start using Nat.strongRecOn
    generalizing start with
  | ind left ih =>
      by_cases hSize : stop - start < size
      · rw [slices_of_lt hSize, total_cons, total_nil,
          ByteArray.size_extract]
        omega
      · have hFull : size ≤ stop - start := by omega
        have hRest :=
          ih (stop - (start + size)) (by omega)
            (by omega : start + size ≤ stop) rfl
        rw [slices_of_le hPos hFull, total_cons, hRest,
          ByteArray.size_extract]
        omega

/- Put together, the slices of a part are its bytes. -/
theorem joined_slices
    (data : ByteArray)
    {start stop size : Nat}
    (hPos : 0 < size)
    (hLe : start ≤ stop) :
    joined (slices data start stop size) =
      data.extract start (stop + 1) := by
  -- Each slice is cut off in front of the part that is left.
  induction hLeft : stop - start using Nat.strongRecOn
    generalizing start with
  | ind left ih =>
      by_cases hSize : stop - start < size
      · rw [slices_of_lt hSize, joined_cons, joined_nil]
        exact ByteArray.append_empty
      · have hFull : size ≤ stop - start := by omega
        have hFirst : start ≤ start + size := by omega
        have hSecond : start + size ≤ stop + 1 := by omega
        have hRest :=
          ih (stop - (start + size)) (by omega)
            (by omega : start + size ≤ stop) rfl
        rw [slices_of_le hPos hFull, joined_cons, hRest,
          ByteArray.extract_eq_extract_append_extract _ hFirst
            hSecond]

/- The question before a round lets nothing through. -/
@[simp] theorem signals_asks
    (chunkSize owed : Nat) :
    signals (asks chunkSize owed) = [] := by
  unfold asks
  split <;> rfl

/-
  Over a connection that never fails the loop sends the slices
  of the part, one flushed write each.
-/
theorem Pumps.signals_eq_pushes
    {τ : Type} [Connection τ] [Connection.NeverFails τ]
    {data : ByteArray}
    {start stop chunkSize owed sent : Nat}
    {s s' : MemorySource}
    {es : List Event}
    {result : Result}
    (h : Pumps chunkSize owed sent s es result s')
    (hAnswered : Answered τ es)
    (hSource : s = atPosition data start)
    (hChunk : 0 < chunkSize)
    (hOwed : sent < owed)
    (hPart : start + (owed - sent) = stop + 1)
    (hStop : stop < data.size) :
    result = .ok (.completed owed) ∧
      signals es = pushes (slices data start stop chunkSize) := by
  -- The part that is left ends where the whole part ends.
  induction h generalizing start with
  | done hDone => omega
  | gone =>
      have hAsked :=
        asked_false (hAnswered _ List.mem_cons_self)
      cases hAsked
  | unread _ hRead =>
      subst hSource
      rw [read_atPosition (by omega)] at hRead
      cases hRead
  | broken _ _ hCalls =>
      rw [answered_append, answered_cons] at hAnswered
      rcases signals_of_chunkCalls hCalls hAnswered.2.2 with
        ⟨hOk, _⟩
      cases hOk
  | @ended sent _ _ chunk last _ hRead hEnded =>
      subst hSource
      rcases read_part (by omega) hRead with
        ⟨hBytes, hSize, hLast, _⟩
      -- The buffer ends here only when the part does.
      have hAll : min chunkSize (owed - sent) = owed - sent := by
        rcases hEnded with hTrue | hEmpty
        · rw [hTrue, eq_comm, decide_eq_true_eq] at hLast
          omega
        · omega
      rw [hAll] at hBytes hSize
      rw [hPart] at hBytes
      rw [slices_of_lt (by omega), hSize, hBytes,
        Nat.add_sub_cancel' (Nat.le_of_lt hOwed)]
      exact ⟨rfl, by simp [Event.signals]⟩
  | @round sent _ s' _ chunk es _ _ hRead hPos hRest ih =>
      subst hSource
      rcases read_part (by omega) hRead with
        ⟨hBytes, hSize, _, hNext⟩
      rw [answered_append, answered_cons, answered_cons,
        answered_cons] at hAnswered
      have hAnsweredRest := hAnswered.2.2.2.2
      by_cases hMore : sent + chunk.size < owed
      · have hFull : chunk.size = chunkSize := by omega
        rcases ih hAnsweredRest hNext hMore (by omega) with
          ⟨hResult, hSignals⟩
        rw [hFull] at hSignals
        rw [← hSize, hFull] at hBytes
        rw [slices_of_le hChunk (by omega), ← hBytes]
        exact ⟨hResult, by simp [Event.signals, hSignals]⟩
      · have hAll :
            min chunkSize (owed - sent) = owed - sent := by
          omega
        rw [hAll] at hBytes hSize
        rw [hPart] at hBytes
        have hCount : sent + chunk.size = owed := by omega
        rw [hCount] at hRest
        cases hRest with
        | done =>
            rw [slices_of_lt (by omega), ← hBytes]
            exact ⟨rfl, by simp [Event.signals]⟩
        | gone hLeft => omega
        | unread hLeft => omega
        | broken hLeft => omega
        | ended hLeft => omega
        | round hLeft => omega

------------------------------------------------------------
-- Runs by verdict
------------------------------------------------------------

/- A verdict without a part lets a head through. -/
theorem Sends.eq_of_bodyless
    {τ σ : Type} [Connection τ] [Connection.NeverFails τ]
    [ByteSource σ]
    {source source' : σ}
    {status : Nat}
    {contentType rangeHeader : Option String}
    {settings : StreamSettings}
    {w : WireHeaders}
    {es : List Event}
    {result : Result}
    (hSends :
      Sends source status contentType rangeHeader settings w es
        result source')
    (hAnswered : Answered τ es)
    {b : Bodyless}
    (hBody :
      bodyless? (ByteSource.length source) status contentType
        settings
        (verdict (ByteSource.length source) settings.chunkSize
          rangeHeader) = some b) :
    result = b.result ∧
      signals es =
        [.head b.status (applyEdits w b.edits)] := by
  cases hSends with
  | bodyless hVerdict hOther hCalls =>
      rw [hVerdict, hOther] at hBody
      cases hBody
      rw [answered_append] at hAnswered
      rcases signals_of_fullCalls_empty hCalls hAnswered.2 with
        ⟨rfl, hSignals⟩
      exact ⟨rfl, by simp [hSignals]⟩
  | exhausted hVerdict =>
      rw [hVerdict] at hBody
      cases hBody
  | unsent hVerdict =>
      rw [hVerdict] at hBody
      cases hBody
  | served hVerdict =>
      rw [hVerdict] at hBody
      cases hBody

/- A part of a buffer is announced and sent in slices. -/
theorem Sends.eq_of_part
    {τ : Type} [Connection τ] [Connection.NeverFails τ]
    {data : ByteArray}
    {status : Nat}
    {contentType rangeHeader : Option String}
    {settings : StreamSettings}
    {w : WireHeaders}
    {es : List Event}
    {result : Result}
    {s' : MemorySource}
    (hSends :
      Sends (ofBytes data) status contentType rangeHeader
        settings w es result s')
    (hAnswered : Answered τ es)
    {start stop : Nat}
    {asked : Bool}
    (hVerdict :
      verdict data.size settings.chunkSize rangeHeader =
        .part start stop asked) :
    result = .ok (.completed (stop - start + 1)) ∧
      signals es =
        .head (partStatus asked status)
            (applyEdits w
              (streamEdits contentType settings
                ++ partEdits start stop data.size)) ::
          pushes
            (slices data start stop settings.chunkSize) := by
  rcases le_and_lt_of_verdict_eq_part hVerdict with
    ⟨hChunk, hLe, hLt⟩
  have hSkipped := skip_ofBytes (Nat.lt_of_le_of_lt hLe hLt)
  cases hSends with
  | bodyless hOther hBody =>
      rw [length_ofBytes, hVerdict] at hOther
      rw [← hOther] at hBody
      cases hBody
  | exhausted hOther hSkip =>
      rw [length_ofBytes, hVerdict] at hOther
      cases hOther
      rw [hSkipped] at hSkip
      cases hSkip
  | unsent hOther =>
      rw [answered_append, answered_cons, answered_cons]
        at hAnswered
      have hHead := head_ok hAnswered.2.2.1
      cases hHead
  | served hOther hSkip hEdits hPumps =>
      rw [length_ofBytes, hVerdict] at hOther
      cases hOther
      rw [hSkipped] at hSkip
      cases hSkip
      rw [answered_append, answered_cons, answered_cons]
        at hAnswered
      rcases hPumps.signals_eq_pushes hAnswered.2.2.2 rfl hChunk
          (by omega) (by omega) hLt with ⟨hResult, hSignals⟩
      rw [length_ofBytes] at hEdits
      exact ⟨hResult, by
        simp [Event.signals, hSignals, hEdits]⟩

------------------------------------------------------------
-- Answers
------------------------------------------------------------

/-
  What a client is to see: the result that is reported, the
  status of the head, the length and the range that the head
  announces, and the chunks that follow it.
-/
structure Answer where
  result : Result
  status : Nat
  contentLength : Option String := none
  contentRange : Option String := none
  chunks : List ByteArray := []

namespace Answer

/- A refusal, which may say how long the content is. -/
def refused
    (status : Nat)
    (range : Option String) : Answer where
  result := .ok (.rejected status)
  status := status
  contentRange := range

/- The bytes from one position to another. -/
def sliced
    (data : ByteArray)
    (status start stop chunkSize : Nat) : Answer where
  result := .ok (.completed (stop - start + 1))
  status := status
  contentLength := some (toString (stop - start + 1))
  contentRange :=
    some (Ranged.contentRange start stop data.size)
  chunks := slices data start stop chunkSize

end Answer

/-
  What a request for a range of a buffer is answered with. The
  cases are tried in this order.
-/
def answerTo
    (data : ByteArray)
    (status chunkSize : Nat)
    (request : RangeRequest) : Answer :=
  if request = .several then
    .refused 416 (some (unsatisfied data.size))
  else if request = .malformed then
    .refused 400 none
  else if chunkSize = 0 then
    { result := .error (.misuse .zeroChunkSize), status := 500 }
  else if data.size = 0 then
    { result := .ok (.completed 0)
      status := status
      contentLength := some "0" }
  else
    match request with
    | .part range =>
        let start := range.start.getD 0
        let stop := range.lastOf data.size
        if data.size ≤ start then
          .refused 400 none
        else if stop < start then
          .refused 416 (some (unsatisfied data.size))
        else
          .sliced data 206 start stop chunkSize
    | _ => .sliced data status 0 (data.size - 1) chunkSize

/-
  The client saw just the answer: its head, then its chunks,
  each of them pushed out at once.
-/
def Gives
    (answer : Answer)
    (result : Result)
    (seen : List Signal) : Prop :=
  result = answer.result ∧
    ∃ headers,
      seen =
          .head answer.status headers ::
            pushes answer.chunks ∧
        (∀ n ∈ answer.contentLength,
          headers.getAll "Content-Length" = [n]) ∧
        ∀ range ∈ answer.contentRange,
          headers.getAll "Content-Range" = [range]

/- The answer that a verdict of the engine stands for. -/
def answerOf
    (data : ByteArray)
    (status chunkSize : Nat) : Verdict → Answer
  | .several => .refused 416 (some (unsatisfied data.size))
  | .malformed => .refused 400 none
  | .zeroChunk =>
      { result := .error (.misuse .zeroChunkSize)
        status := 500 }
  | .noContent =>
      { result := .ok (.completed 0)
        status := status
        contentLength := some "0" }
  | .beyond => .refused 400 none
  | .unsatisfiable =>
      .refused 416 (some (unsatisfied data.size))
  | .part start stop asked =>
      .sliced data (partStatus asked status) start stop
        chunkSize

/- The engine's verdict stands for the answer to the request. -/
theorem answerOf_verdict
    (data : ByteArray)
    (status chunkSize : Nat)
    (rangeHeader : Option String) :
    answerOf data status chunkSize
        (verdict data.size chunkSize rangeHeader) =
      answerTo data status chunkSize
        (.ofReading (ByteRange.ofHeader rangeHeader)) := by
  cases hHeader : ByteRange.ofHeader rangeHeader with
  | error e =>
      cases e <;>
        simp [verdict, hHeader, answerOf, answerTo,
          RangeRequest.ofReading]
  | ok requested =>
      cases requested with
      | none =>
          rw [verdict_of_whole hHeader]
          by_cases hChunk : chunkSize = 0
          · simp [hChunk, answerOf, answerTo,
              RangeRequest.ofReading]
          by_cases hLength : data.size = 0
          · simp [hChunk, hLength, answerOf, answerTo,
              RangeRequest.ofReading]
          simp [hChunk, hLength, answerOf, answerTo,
            RangeRequest.ofReading, partStatus]
      | some range =>
          rw [verdict_of_range hHeader]
          by_cases hChunk : chunkSize = 0
          · simp [hChunk, answerOf, answerTo,
              RangeRequest.ofReading]
          by_cases hLength : data.size = 0
          · simp [hChunk, hLength, answerOf, answerTo,
              RangeRequest.ofReading]
          by_cases hBeyond : data.size ≤ range.start.getD 0
          · simp [hChunk, hLength, hBeyond, answerOf, answerTo,
              RangeRequest.ofReading]
          by_cases hBefore :
              range.lastOf data.size < range.start.getD 0
          · simp [hChunk, hLength, hBeyond, hBefore, answerOf,
              answerTo, RangeRequest.ofReading]
          simp [hChunk, hLength, hBeyond, hBefore, answerOf,
            answerTo, RangeRequest.ofReading, partStatus]

------------------------------------------------------------
-- Every run
------------------------------------------------------------

section Runs

variable {τ : Type} [Connection τ] [Connection.NeverFails τ]
variable {data : ByteArray} {status : Nat}
variable {contentType rangeHeader : Option String}
variable {settings : StreamSettings} {w : WireHeaders}
variable {es : List Event} {result : Result}
variable {s' : MemorySource}

/- An answer without chunks is given by a head alone. -/
theorem Sends.gives_of_bodyless
    (hSends :
      Sends (ofBytes data) status contentType rangeHeader
        settings w es result s')
    (hAnswered : Answered τ es)
    {b : Bodyless}
    (hBody :
      bodyless? data.size status contentType settings
        (verdict data.size settings.chunkSize rangeHeader) =
        some b)
    {answer : Answer}
    (hResult : answer.result = b.result)
    (hStatus : answer.status = b.status)
    (hChunks : answer.chunks = [])
    (hLength :
      ∀ n ∈ answer.contentLength,
        (applyEdits w b.edits).getAll "Content-Length" = [n])
    (hRange :
      ∀ range ∈ answer.contentRange,
        (applyEdits w b.edits).getAll "Content-Range" =
          [range]) :
    Gives answer result (signals es) := by
  rcases hSends.eq_of_bodyless hAnswered hBody with
    ⟨rfl, hSignals⟩
  refine ⟨hResult.symm, _, ?_, hLength, hRange⟩
  rw [hSignals, hStatus, hChunks, pushes_nil]

/- A sliced part is given by its head and its chunks. -/
theorem Sends.gives_sliced
    (hSends :
      Sends (ofBytes data) status contentType rangeHeader
        settings w es result s')
    (hAnswered : Answered τ es)
    {start stop : Nat}
    {asked : Bool}
    (hVerdict :
      verdict data.size settings.chunkSize rangeHeader =
        .part start stop asked) :
    Gives
      (.sliced data (partStatus asked status) start stop
        settings.chunkSize)
      result (signals es) := by
  rcases hSends.eq_of_part hAnswered hVerdict with
    ⟨hResult, hSignals⟩
  refine ⟨hResult, _, hSignals, ?_, ?_⟩
  · intro n hn
    cases hn
    rw [applyEdits_append]
    exact getAll_contentLength_partEdits _ _ _ _
  · intro range hRange
    cases hRange
    rw [applyEdits_append]
    exact getAll_contentRange_partEdits _ _ _ _

theorem Sends.gives_answerOf
    (hSends :
      Sends (ofBytes data) status contentType rangeHeader
        settings w es result s')
    (hAnswered : Answered τ es) :
    Gives
      (answerOf data status settings.chunkSize
        (verdict data.size settings.chunkSize rangeHeader))
      result (signals es) := by
  have hRefused :
      ∀ (edits : List HeaderEdit) (length : Option Nat),
        ∀ range ∈ length.map unsatisfied,
          (applyEdits w (edits ++ refusalEdits length)).getAll
              "Content-Range" = [range] := by
    intro edits length range hRange
    rw [applyEdits_append, getAll_contentRange_refusalEdits,
      hRange]
    rfl
  cases hVerdict :
      verdict data.size settings.chunkSize rangeHeader with
  | several =>
      refine hSends.gives_of_bodyless hAnswered
        (by rw [hVerdict]; rfl) rfl rfl rfl ?_ ?_
      · intro n hn
        cases hn
      · exact hRefused [] (some data.size)
  | malformed =>
      refine hSends.gives_of_bodyless hAnswered
        (by rw [hVerdict]; rfl) rfl rfl rfl ?_ ?_
      · intro n hn
        cases hn
      · exact hRefused [] none
  | zeroChunk =>
      refine hSends.gives_of_bodyless hAnswered
        (by rw [hVerdict]; rfl) rfl rfl rfl ?_ ?_
      · intro n hn
        cases hn
      · intro range hRange
        cases hRange
  | noContent =>
      refine hSends.gives_of_bodyless hAnswered
        (by rw [hVerdict]; rfl) rfl rfl rfl ?_ ?_
      · intro n hn
        cases hn
        exact getAll_contentLength_append _ (by decide) w
      · intro range hRange
        cases hRange
  | beyond =>
      refine hSends.gives_of_bodyless hAnswered
        (by rw [hVerdict]; rfl) rfl rfl rfl ?_ ?_
      · intro n hn
        cases hn
      · exact hRefused (streamEdits contentType settings) none
  | unsatisfiable =>
      refine hSends.gives_of_bodyless hAnswered
        (by rw [hVerdict]; rfl) rfl rfl rfl ?_ ?_
      · intro n hn
        cases hn
      · exact hRefused (streamEdits contentType settings)
          (some data.size)
  | part start stop asked =>
      exact hSends.gives_sliced hAnswered hVerdict

/-
  Whatever the header, the client sees the answer to the one
  request that the header makes.
-/
theorem stream_gives_answerTo
    (data : ByteArray)
    (status : Nat)
    (contentType rangeHeader : Option String)
    (settings : StreamSettings)
    (x : Exchange τ) :
    let run :=
      perform
        (stream (ofBytes data) status contentType rangeHeader
          settings) x
    ∃ request,
      RangeRequest.Reads rangeHeader request ∧
        Gives
          (answerTo data status settings.chunkSize request)
          run.1 (signals (since x run.2)) := by
  intro run
  rcases perform_stream (ofBytes data) status contentType
      rangeHeader settings x with
    ⟨result, source', es, x', hRun, hSends, hLeads⟩
  refine ⟨_, RangeRequest.reads_ofHeader rangeHeader, ?_⟩
  have hAnswered := (answered_append.mp hLeads.answered).1
  have hGives := hSends.gives_answerOf hAnswered
  rw [answerOf_verdict] at hGives
  have hSignals :
      signals (since x run.2) = signals es := by
    change signals (since x (perform _ x).2) = _
    rw [hRun, hLeads.since_eq, signals_append]
    simp [Event.signals]
  have hResult : run.1 = result := by
    change (perform _ x).1 = _
    rw [hRun]
  rw [hSignals, hResult]
  exact hGives

end Runs

/- Five bytes in chunks of two, from the second byte on. -/
theorem stream_gives_answerTo_of_five_bytes :
    let data : ByteArray := ⟨#[1, 2, 3, 4, 5]⟩
    let settings : StreamSettings := { chunkSize := 2 }
    let x : Exchange OpenConnection := .start .fresh
    let run :=
      perform
        (stream (ofBytes data) 200 none (some "bytes=1-")
          settings) x
    ∃ request,
      RangeRequest.Reads (some "bytes=1-") request ∧
        Gives (answerTo data 200 2 request) run.1
          (signals (since x run.2)) := by
  intro data settings x run
  exact stream_gives_answerTo data 200 none (some "bytes=1-")
    settings x

/- What that answer is. -/
example :
    (answerTo ⟨#[1, 2, 3, 4, 5]⟩ 200 2
      (.part ⟨some 1, none⟩)).chunks =
      [⟨#[2, 3]⟩, ⟨#[4, 5]⟩] := by
  decide

end Courier.Ranged
