import Courier.Proofs.Delivery.MemoryAnswer
import Courier.Proofs.Delivery.Settled
import Courier.Proofs.Exchange.Message

/-
  The messages that bytes in memory are sent as, over a
  connection that never fails. A buffered body goes out whole
  unless it is promoted; what the engine is handed goes out as
  the part that its verdict names, in as many chunks as that
  takes.

  Key definitions include:
    * `Ranged.partNames`
    * `Assembly.Streams`

  Main statements:
    * `Ranged.Sends.shows_part`
    * `Assembly.Streams.shows_part`
    * `Assembly.Streams.shows_whole`
    * `Assembly.Pays.cases_body`
    * `Assembly.Pays.shows_body`
    * `Delivery.exists_pays_of_dated`
    * `Delivery.deliver_of_fresh`
    * `Delivery.deliver_shows_notModified`
-/

namespace Courier

open Exchange Trace MemorySource

variable {τ : Type} [Connection τ] [Connection.NeverFails τ]

------------------------------------------------------------
-- Parts
------------------------------------------------------------

namespace Ranged

/- The names that are written when a part is announced. -/
def partNames : List String :=
  streamNames ++ ["Content-Length", "Content-Range"]

/- The changes of the headers before a part. -/
def announceEdits
    (contentType : Option String)
    (settings : StreamSettings)
    (start stop length : Nat) : List HeaderEdit :=
  streamEdits contentType settings
    ++ partEdits start stop length

theorem editsOnly_announceEdits
    (contentType : Option String)
    (settings : StreamSettings)
    (start stop length : Nat) :
    EditsOnly partNames
      (announceEdits contentType settings start stop length) := by
  apply EditsOnly.append
  · exact (editsOnly_streamEdits contentType settings).mono
      (List.subset_append_left _ _)
  · exact (editsOnly_partEdits start stop length).mono
      (List.subset_append_right _ _)

/- A part of a buffer is sent as one message. -/
theorem Sends.shows_part
    {data : ByteArray}
    {status : Nat}
    {contentType rangeHeader : Option String}
    {settings : StreamSettings}
    {w : WireHeaders}
    {es : List Event}
    {result : Result}
    {s' : MemorySource}
    (hSends :
      Sends (ofBytes data) status contentType rangeHeader
        settings w es result s')
    (hAnswered : Answered τ es)
    {start stop : Nat}
    {asked : Bool}
    (hVerdict :
      verdict data.size settings.chunkSize rangeHeader =
        .part start stop asked) :
    Shows (signals es)
      ⟨partStatus asked status,
        applyEdits w
          (announceEdits contentType settings start stop
            data.size),
        data.extract start (stop + 1)⟩ := by
  rcases le_and_lt_of_verdict_eq_part hVerdict with
    ⟨hChunk, hLe, _⟩
  rcases hSends.eq_of_part hAnswered hVerdict with
    ⟨_, hSignals⟩
  rw [hSignals, ← joined_slices data hChunk hLe]
  exact shows_pushes _ _ _

end Ranged

namespace Assembly

variable {σ : Type} {r : Response σ} {q : RequestHead}
variable {w : WireHeaders} {es : List Event}
variable {data : ByteArray}

------------------------------------------------------------
-- Bytes that the engine is handed
------------------------------------------------------------

/- The engine is handed these bytes and its source closed. -/
def Streams
    (data : ByteArray)
    (r : Response σ)
    (q : RequestHead)
    (w : WireHeaders)
    (es : List Event) : Prop :=
  ∃ sent result s' answer,
    es = sent ++ [.close answer] ∧
      Ranged.Sends (ofBytes data) r.status
        (r.headers.get? "Content-Type") (q.header? "Range")
        (streamSettings r) w sent result s'

/- They go out as the part that the engine's verdict names. -/
theorem Streams.shows_part
    (hStreams : Streams data r q w es)
    (hAnswered : Answered τ es)
    {start stop : Nat}
    {asked : Bool}
    (hVerdict :
      Ranged.verdict data.size (streamSettings r).chunkSize
        (q.header? "Range") = .part start stop asked) :
    Shows (signals es)
      ⟨Ranged.partStatus asked r.status,
        applyEdits w
          (Ranged.announceEdits (r.headers.get? "Content-Type")
            (streamSettings r) start stop data.size),
        data.extract start (stop + 1)⟩ := by
  rcases hStreams with ⟨sent, _, _, answer, rfl, hSends⟩
  rw [answered_append] at hAnswered
  have hShows := hSends.shows_part hAnswered.1 hVerdict
  have hClose :
      signals (sent ++ [.close answer]) = signals sent := by
    simp [Event.signals]
  rw [hClose]
  exact hShows

/-
  The bytes go out under the status of the response, with their
  length and the settings of the stream among the headers.
-/
def ShowsWhole
    (data : ByteArray)
    (r : Response σ)
    (w : WireHeaders)
    (seen : List Signal) : Prop :=
  ∃ edits,
    EditsOnly Ranged.partNames edits ∧
      Shows seen ⟨r.status, applyEdits w edits, data⟩

/- Without a range the engine sends everything. -/
theorem Streams.shows_whole
    (hStreams : Streams data r q w es)
    (hAnswered : Answered τ es)
    (hData : data.isEmpty = false)
    (hChunk : 0 < (streamSettings r).chunkSize)
    (hRange :
      ByteRange.ofHeader (q.header? "Range") = .ok none) :
    ShowsWhole data r w (signals es) := by
  have hSize : data.size ≠ 0 := by
    simpa [ByteArray.isEmpty] using hData
  have hVerdict :
      Ranged.verdict data.size (streamSettings r).chunkSize
          (q.header? "Range") =
        .part 0 (data.size - 1) false := by
    rw [Ranged.verdict_of_whole hRange,
      if_neg (Nat.pos_iff_ne_zero.mp hChunk), if_neg hSize]
  have hAll : data.extract 0 (data.size - 1 + 1) = data := by
    rw [Nat.sub_add_cancel (Nat.pos_of_ne_zero hSize)]
    exact ByteArray.extract_zero_size
  have hShows := hStreams.shows_part hAnswered hVerdict
  rw [hAll] at hShows
  exact ⟨_, Ranged.editsOnly_announceEdits _ _ _ _ _, hShows⟩

------------------------------------------------------------
-- Payloads
------------------------------------------------------------

/- A body is handed to the engine, or is a complete response. -/
theorem Pays.cases_body
    [ByteSource σ]
    {result : Result}
    (hPays : Pays r q w es result)
    (hPayload : r.payload = .body data)
    (hData : data.isEmpty = false) :
    (isPromoted r q data = true ∧ Streams data r q w es) ∨
      (isPromoted r q data = false ∧
        ∃ length answer sent,
          length =
              .set "Content-Length" (toString data.size) ∧
            es = .edit length :: sent ∧
            FullCalls r.status (applyEdits w [length]) data
              answer sent) := by
  cases hPays with
  | bare hOther =>
      rw [hPayload] at hOther
      rcases hOther with hEmpty | ⟨bytes, hBytes, hNone⟩
      · cases hEmpty
      · cases hBytes
        rw [hData] at hNone
        cases hNone
  | buffered hOther _ hKept hCalls =>
      rw [hPayload] at hOther
      cases hOther
      exact Or.inr ⟨hKept, _, _, _, rfl, rfl, hCalls⟩
  | promoted hOther _ hPromoted hSends hLast =>
      rw [hPayload] at hOther
      cases hOther
      rw [hLast]
      exact Or.inl ⟨hPromoted, _, _, _, _, rfl, hSends⟩
  | sourced hOther =>
      rw [hPayload] at hOther
      cases hOther
  | pushed hOther =>
      rw [hPayload] at hOther
      cases hOther

/- Promoted or not, a body goes out whole without a range. -/
theorem Pays.shows_body
    [ByteSource σ]
    {result : Result}
    (hPays : Pays r q w es result)
    (hAnswered : Answered τ es)
    (hPayload : r.payload = .body data)
    (hData : data.isEmpty = false)
    (hChunk : 0 < (streamSettings r).chunkSize)
    (hRange :
      ByteRange.ofHeader (q.header? "Range") = .ok none) :
    ShowsWhole data r w (signals es) := by
  rcases hPays.cases_body hPayload hData with
    ⟨_, hStreams⟩ |
      ⟨_, length, answer, sent, hLength, rfl, hCalls⟩
  · exact hStreams.shows_whole hAnswered hData hChunk hRange
  · rw [answered_cons] at hAnswered
    have hEdits : EditsOnly Ranged.partNames [length] := by
      rw [hLength]
      simp [EditsOnly, HeaderEdit.name, Ranged.partNames]
    have hShows := shows_of_fullCalls hCalls hAnswered.2
    exact ⟨[length], hEdits, hShows⟩

/- A source in memory is handed to the engine. -/
theorem Pays.streams_of_source
    {r : Response MemorySource}
    {result : Result}
    (hPays : Pays r q w es result)
    (hPayload : r.payload = .source (ofBytes data)) :
    Streams data r q w es := by
  cases hPays with
  | bare hOther =>
      rw [hPayload] at hOther
      rcases hOther with hEmpty | ⟨bytes, hBytes, _⟩
      · cases hEmpty
      · cases hBytes
  | buffered hOther =>
      rw [hPayload] at hOther
      cases hOther
  | promoted hOther =>
      rw [hPayload] at hOther
      cases hOther
  | sourced hOther hSends hLast =>
      rw [hPayload] at hOther
      cases hOther
      exact ⟨_, _, _, _, by rw [hLast], hSends⟩
  | pushed hOther =>
      rw [hPayload] at hOther
      cases hOther

/- Without a body a response is a head alone. -/
theorem Pays.eq_of_empty
    [ByteSource σ]
    {result : Result}
    (hPays : Pays r q w es result)
    (hAnswered : Answered τ es)
    (hPayload : r.payload = .empty) :
    result = .ok (.buffered r.status 0) ∧
      signals es = [.head r.status w] ∧
      ∀ e ∈ es, e.IsHead := by
  cases hPays with
  | bare _ hCalls =>
      rcases signals_of_fullCalls_empty hCalls hAnswered with
        ⟨rfl, hSignals⟩
      refine ⟨rfl, hSignals, ?_⟩
      rcases hCalls.of_empty with rfl | rfl
      · simp [Event.IsHead]
      · simp [Event.IsHead]
  | buffered hOther =>
      rw [hPayload] at hOther
      cases hOther
  | promoted hOther =>
      rw [hPayload] at hOther
      cases hOther
  | sourced hOther =>
      rw [hPayload] at hOther
      cases hOther
  | pushed hOther =>
      rw [hPayload] at hOther
      cases hOther

/- No payload is reported as unmodified when it is sent. -/
theorem Pays.ne_notModified
    [ByteSource σ]
    {result : Result}
    (hPays : Pays r q w es result) :
    result ≠ .ok .notModified := by
  have hBuffered :
      ∀ answer status length,
        bufferedIf answer status length ≠ .ok .notModified := by
    intro answer status length
    cases answer <;> simp [bufferedIf]
  have hStreamed :
      ∀ outcome, streamed outcome ≠ .ok .notModified := by
    intro outcome
    cases outcome <;> simp [streamed, Except.map]
  cases hPays with
  | bare => exact hBuffered _ _ _
  | buffered => exact hBuffered _ _ _
  | promoted => exact hStreamed _
  | sourced => exact hStreamed _
  | pushed => exact hStreamed _

end Assembly

------------------------------------------------------------
-- Deliveries
------------------------------------------------------------

namespace Delivery

open Assembly

variable {σ : Type} [ByteSource σ]
variable {r : Response σ}

/-
  A dated response is delivered by changes of the headers alone
  and the payload of the settled one, which is all that is seen.
-/
omit [Connection.NeverFails τ] in
theorem exists_pays_of_dated
    (hHandler : r.handler = none)
    (hDated : Dated r.cookies)
    (d : Delivery)
    (q : RequestHead)
    (c : τ) :
    let x := Exchange.start c
    let run := perform (d.deliver r q) x
    ∃ result es,
      run.1 = reported (d.answersFresh r q) result ∧
        since x run.2 =
          (carryEdits d.codec (d.settled r q) q).map .edit
            ++ es ∧
        signals (since x run.2) = signals es ∧
        Answered τ es ∧
        Pays (encoded d.codec (d.settled r q) q) q
          (applyEdits .empty
            (carryEdits d.codec (d.settled r q) q))
          es result := by
  intro x run
  rcases perform_deliver_of_dated hHandler hDated d q x with
    ⟨result, es, x', hRun, hPays, hLeads⟩
  have hAnswered := (answered_append.mp hLeads.answered).2
  have hSince :
      since x run.2 =
        (carryEdits d.codec (d.settled r q) q).map .edit
          ++ es := by
    change since x (perform _ x).2 = _
    rw [hRun, hLeads.since_eq]
  refine ⟨result, es, ?_, hSince, ?_, hAnswered, hPays⟩
  · change (perform _ x).1 = _
    rw [hRun]
  · rw [hSince, signals_append, signals_map_edit,
      List.nil_append]

/- The settings that a delivered response is streamed with. -/
omit [ByteSource σ] in
theorem streamSettings_sent
    {d : Delivery}
    {q : RequestHead}
    (hFresh : d.answersFresh r q = false) :
    streamSettings (encoded d.codec (d.settled r q) q) =
      streamSettings (d.fillSettings r) := by
  rw [encoded_eq, d.settled_eq r q hFresh]
  rfl

/-
  A client that has the response already is sent a 304: nothing
  happens but changes of the headers and this one head.
-/
theorem deliver_of_fresh
    {d : Delivery}
    {q : RequestHead}
    (hHandler : r.handler = none)
    (hDated : Dated r.cookies)
    (hFresh : d.answersFresh r q = true)
    (c : τ) :
    let x := Exchange.start c
    let run := perform (d.deliver r q) x
    run.1 = .ok .notModified ∧
      signals (since x run.2) =
        [.head 304
          (applyEdits .empty
            (carryEdits d.codec (d.settled r q) q))] ∧
      ∀ e ∈ since x run.2, e.IsEdit ∨ e.IsHead := by
  intro x run
  rcases exists_pays_of_dated hHandler hDated d q c with
    ⟨result, es, hResult, hSince, hSignals, hAnswered, hPays⟩
  have hSettled := d.payload_settled_of_fresh r q hFresh
  have hEmpty :
      (encoded d.codec (d.settled r q) q).payload = .empty := by
    rw [payload_encoded _ _ _ (by simp [hSettled.1]),
      hSettled.1]
  rcases hPays.eq_of_empty hAnswered hEmpty with
    ⟨rfl, hHead, hAlone⟩
  rw [hFresh] at hResult
  rw [status_encoded, hSettled.2] at hHead
  refine ⟨hResult, hSignals.trans hHead, ?_⟩
  intro e he
  rw [hSince] at he
  rcases List.mem_append.mp he with hEdit | hSent
  · rcases List.mem_map.mp hEdit with ⟨change, _, rfl⟩
    exact Or.inl trivial
  · exact Or.inr (hAlone e hSent)

/- So all that this client sees is a 304 without a body. -/
theorem deliver_shows_notModified
    {d : Delivery}
    {q : RequestHead}
    (hHandler : r.handler = none)
    (hDated : Dated r.cookies)
    (hFresh : d.answersFresh r q = true)
    (c : τ) :
    let x := Exchange.start c
    let run := perform (d.deliver r q) x
    run.1 = .ok .notModified ∧
      ∃ headers,
        Shows (signals (since x run.2))
          ⟨304, headers, .empty⟩ := by
  intro x run
  rcases deliver_of_fresh hHandler hDated hFresh c with
    ⟨hResult, hSeen, _⟩
  exact ⟨hResult, _, [], hSeen, nofun, rfl⟩

end Delivery

end Courier
