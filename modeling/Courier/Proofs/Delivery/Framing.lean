import Courier.Compression.Standard
import Courier.Proofs.Delivery.Messages
import Courier.Proofs.Exchange.OpenConnection

/-
  Message framing: the head of a delivered response announces
  just the body that follows it, and the reported result agrees
  with both. The response may be empty, buffered or streamed
  from memory, over a connection that never fails.

  Key definitions include:
    * `Assembly.Agrees`
    * `Assembly.WellFramed`
    * `Assembly.Framed`

  Main statements:
    * `Delivery.deliver_framed`
-/

namespace Courier

open Exchange Trace

namespace Assembly

------------------------------------------------------------
-- Framing
------------------------------------------------------------

/-
  A result agrees with the status and the headers of the head
  and with the number of bytes that follow it. A failure says
  nothing of them.
-/
def Agrees
    (status : Nat)
    (headers : WireHeaders)
    (size : Nat) : Result → Prop
  | .ok (.buffered reported length) =>
      reported = status ∧ length = size
  | .ok (.streamed (.completed sent)) => sent = size
  | .ok (.streamed (.rejected reported)) =>
      reported = status ∧ size = 0 ∧
        headers.getAll "Content-Length" = []
  | .ok .notModified =>
      size = 0 ∧ headers.getAll "Content-Length" = []
  | .ok (.streamed (.aborted _)) => False
  | .ok .custom => False
  | .error _ => True

/-
  A head with this status and these headers announces a body of
  this size, and the result agrees.
-/
structure WellFramed
    (status : Nat)
    (headers : WireHeaders)
    (size : Nat)
    (result : Result) : Prop where
  length_eq :
    headers.getAll "Content-Length" = [toString size] ∨
      (headers.getAll "Content-Length" = [] ∧ size = 0)
  range_fits :
    ∀ start stop length,
      Ranged.contentRange start stop length ∈
          headers.getAll "Content-Range" →
        start ≤ stop ∧ stop - start + 1 = size ∧
          stop < length
  agrees : Agrees status headers size result

/-
  What the client sees is one head and a body that it announces,
  or nothing at all when a cookie cannot be dated.
-/
def Framed
    (result : Result)
    (seen : List Signal) : Prop :=
  (seen = [] ∧ result = .error .dateOutOfRange) ∨
    ∃ status headers rest,
      seen = .head status headers :: rest ∧
        (∀ s ∈ rest, ¬ s.IsHead) ∧
        WellFramed status headers (bodySize rest) result

/- Nothing is announced of the body. -/
structure Unannounced
    (w : WireHeaders) : Prop where
  length_eq : w.getAll "Content-Length" = []
  range_eq : w.getAll "Content-Range" = []

------------------------------------------------------------
-- Heads without a body
------------------------------------------------------------

/- A head that announces nothing fits a body without bytes. -/
theorem WellFramed.of_unannounced
    {w : WireHeaders}
    (hBare : Unannounced w)
    {status : Nat}
    {result : Result}
    (hAgrees : Agrees status w 0 result) :
    WellFramed status w 0 result where
  length_eq := Or.inr ⟨hBare.length_eq, rfl⟩
  range_fits start stop length hRange := by
    rw [hBare.range_eq] at hRange
    cases hRange
  agrees := hAgrees

/- A refusal announces no body. -/
theorem WellFramed.of_refusal
    (status : Nat)
    (edits : List HeaderEdit)
    (length : Option Nat)
    (w : WireHeaders) :
    WellFramed status
      (applyEdits w (edits ++ Ranged.refusalEdits length)) 0
      (.ok (.streamed (.rejected status))) := by
  have hLength :
      (applyEdits w
          (edits ++ Ranged.refusalEdits length)).getAll
          "Content-Length" = [] := by
    rw [applyEdits_append]
    exact Ranged.getAll_refusalEdits
      (by simp [Ranged.bodyHeaders])
      Ranged.contentLength_ne_contentRange _ _
  refine ⟨Or.inr ⟨hLength, rfl⟩, ?_, rfl, rfl, hLength⟩
  intro start stop content hRange
  rw [applyEdits_append,
    Ranged.getAll_contentRange_refusalEdits] at hRange
  cases length with
  | none => cases hRange
  | some n =>
      have hSame := List.mem_singleton.mp hRange
      exact absurd hSame
        (Ranged.contentRange_ne_unsatisfied _ _ _ _)

------------------------------------------------------------
-- Payloads
------------------------------------------------------------

variable {τ : Type} [Connection τ] [Connection.NeverFails τ]

/- A head that is seen alone frames a result without bytes. -/
theorem Framed.of_head
    {status : Nat}
    {headers : WireHeaders}
    {result : Result}
    {seen : List Signal}
    (hSeen : seen = [.head status headers])
    (hFramed : WellFramed status headers 0 result) :
    Framed result seen :=
  Or.inr ⟨status, headers, [], hSeen, by simp, hFramed⟩

/- Streaming a buffer announces what it sends. -/
theorem Framed.of_sends
    {data : ByteArray}
    {status : Nat}
    {contentType rangeHeader : Option String}
    {settings : StreamSettings}
    {w : WireHeaders}
    {es : List Event}
    {result : Ranged.Result}
    {s' : MemorySource}
    (hSends :
      Ranged.Sends (MemorySource.ofBytes data) status
        contentType rangeHeader settings w es result s')
    (hAnswered : Answered τ es)
    (hBare : Unannounced w) :
    Framed (streamed result) (signals es) := by
  have hHead :
      ∀ b : Ranged.Bodyless,
        Ranged.bodyless? data.size status contentType settings
            (Ranged.verdict data.size settings.chunkSize
              rangeHeader) = some b →
          WellFramed b.status (applyEdits w b.edits) 0
              (streamed b.result) →
            Framed (streamed result) (signals es) := by
    intro b hBody hFramed
    rcases hSends.eq_of_bodyless hAnswered hBody with
      ⟨rfl, hSignals⟩
    exact .of_head hSignals hFramed
  cases hVerdict :
      Ranged.verdict data.size settings.chunkSize rangeHeader
    with
  | several =>
      exact hHead _ (by rw [hVerdict]; rfl)
        (.of_refusal 416 [] _ w)
  | malformed =>
      exact hHead _ (by rw [hVerdict]; rfl)
        (.of_refusal 400 [] none w)
  | zeroChunk =>
      have hAgrees :
          Agrees 500 w 0
            (streamed (.error (.misuse .zeroChunkSize))) :=
        trivial
      exact hHead _ (by rw [hVerdict]; rfl)
        (.of_unannounced hBare hAgrees)
  | noContent =>
      have hAgrees :
          Agrees status
            (applyEdits w
              (Ranged.streamEdits contentType settings
                ++ [.set "Content-Length" "0"])) 0
            (streamed (.ok (.completed 0))) := rfl
      refine hHead _ (by rw [hVerdict]; rfl)
        ⟨Or.inl ?_, ?_, hAgrees⟩
      · exact Ranged.getAll_contentLength_append _ (by decide) w
      · intro start stop length hRange
        rw [Ranged.getAll_contentRange_noContent,
          hBare.range_eq] at hRange
        cases hRange
  | beyond =>
      exact hHead _ (by rw [hVerdict]; rfl)
        (.of_refusal 400 _ none w)
  | unsatisfiable =>
      exact hHead _ (by rw [hVerdict]; rfl)
        (.of_refusal 416 _ _ w)
  | part start stop asked =>
      rcases hSends.eq_of_part hAnswered hVerdict with
        ⟨rfl, hSignals⟩
      rcases Ranged.le_and_lt_of_verdict_eq_part hVerdict with
        ⟨hChunk, hLe, hLt⟩
      refine Or.inr ⟨_, _, _, hSignals,
        not_isHead_of_mem_pushes, ?_⟩
      rw [bodySize_pushes, Ranged.total_slices hChunk hLe hLt]
      rw [applyEdits_append]
      refine ⟨Or.inl ?_, ?_, rfl⟩
      · exact Ranged.getAll_contentLength_partEdits _ _ _ _
      · intro start' stop' length hRange
        rw [Ranged.getAll_contentRange_partEdits] at hRange
        rcases Ranged.contentRange_inj
          (List.mem_singleton.mp hRange) with ⟨rfl, rfl, rfl⟩
        exact ⟨hLe, rfl, hLt⟩

/- The payload is nothing, a buffer, or one that is streamed. -/
def InMemory : Payload MemorySource → Prop
  | .empty | .body _ => True
  | .source source => ∃ data, source = .ofBytes data
  | .producer _ => False

/- Whatever is sent from memory is announced. -/
theorem Pays.framed
    {r : Response MemorySource}
    {q : RequestHead}
    {w : WireHeaders}
    {es : List Event}
    {result : Result}
    (hPays : Pays r q w es result)
    (hAnswered : Answered τ es)
    (hPayload : InMemory r.payload)
    (hBare : Unannounced w) :
    Framed result (signals es) := by
  cases hPays with
  | bare _ hCalls =>
      rcases signals_of_fullCalls_empty hCalls hAnswered with
        ⟨rfl, hSignals⟩
      exact .of_head hSignals
        (.of_unannounced hBare ⟨rfl, rfl⟩)
  | @buffered bytes answer es _ hBytes _ hCalls =>
      rw [answered_cons] at hAnswered
      rcases signals_of_fullCalls hCalls hAnswered.2 with
        ⟨rfl, rest, hSignals, hHeads, hChunks⟩
      have hSize : bodySize rest = bytes.size := by
        rw [bodySize, hChunks, hBytes]
        simp
      refine Or.inr ⟨r.status,
        w.set "Content-Length" (toString bytes.size), rest,
        hSignals, hHeads, ?_⟩
      rw [hSize]
      refine ⟨Or.inl ?_, ?_, rfl, rfl⟩
      · exact Ranged.getAll_contentLength_append [] (by simp) w
      · intro start stop length hRange
        have hOther :
            (w.set "Content-Length"
                (toString bytes.size)).getAll
                "Content-Range" =
              w.getAll "Content-Range" := by
          rw [WireHeaders.getAll_set, if_neg]
          exact fun h =>
            Ranged.contentLength_ne_contentRange h.2.symm
        rw [hOther, hBare.range_eq] at hRange
        cases hRange
  | promoted _ _ _ hSends hLast =>
      rw [answered_append] at hAnswered
      have hFramed := Framed.of_sends hSends hAnswered.1 hBare
      simpa [hLast, Event.signals] using hFramed
  | sourced hSource hSends hLast =>
      rw [hSource] at hPayload
      rcases hPayload with ⟨data, rfl⟩
      rw [answered_append] at hAnswered
      have hFramed := Framed.of_sends hSends hAnswered.1 hBare
      simpa [hLast, Event.signals] using hFramed
  | pushed hProducer =>
      rw [hProducer] at hPayload
      exact hPayload.elim

end Assembly

------------------------------------------------------------
-- Every delivery
------------------------------------------------------------

namespace Delivery

open Assembly

/- Settling and encoding a response keep it in memory. -/
theorem inMemory_encoded
    {r : Response MemorySource}
    (hPayload : InMemory r.payload)
    (d : Delivery)
    (q : RequestHead) :
    InMemory (encoded d.codec (d.settled r q) q).payload := by
  have hSettled : InMemory (d.settled r q).payload := by
    cases hFresh : d.answersFresh r q with
    | true =>
        rw [(d.payload_settled_of_fresh r q hFresh).1]
        trivial
    | false =>
        rw [(d.payload_settled r q hFresh).1]
        exact hPayload
  cases hBody : (d.settled r q).payload with
  | body bytes =>
      rcases payload_encoded_of_body d.codec _ q hBody with
        ⟨packed, hPacked⟩
      rw [hPacked]
      trivial
  | empty =>
      rw [payload_encoded d.codec _ q (by simp [hBody]), hBody]
      trivial
  | source source =>
      rw [payload_encoded d.codec _ q (by simp [hBody])]
      exact hSettled
  | producer producer =>
      rw [payload_encoded d.codec _ q (by simp [hBody])]
      exact hSettled

/- Nothing is announced before the payload is sent. -/
theorem unannounced_carried
    {σ : Type} [ByteSource σ]
    {r : Response σ}
    (hLength : r.headers.has "Content-Length" = false)
    (hRange : r.headers.has "Content-Range" = false)
    (d : Delivery)
    (q : RequestHead) :
    Unannounced
      (applyEdits .empty
        (carryEdits d.codec (d.settled r q) q)) := by
  constructor
  · exact getAll_sent_eq_nil (by decide +kernel)
      (by decide +kernel) (by decide +kernel) hLength
  · exact getAll_sent_eq_nil (by decide +kernel)
      (by decide +kernel) (by decide +kernel) hRange

variable {τ : Type} [Connection τ] [Connection.NeverFails τ]

/- A response that the client has already is one head. -/
theorem framed_of_fresh
    {r : Response MemorySource}
    {q : RequestHead}
    {w : WireHeaders}
    {es : List Event}
    {result : Assembly.Result}
    (hPays : Pays r q w es result)
    (hAnswered : Answered τ es)
    (hPayload : r.payload = .empty)
    (hBare : Unannounced w) :
    Framed (reported true result) (signals es) := by
  rcases hPays.eq_of_empty hAnswered hPayload with
    ⟨rfl, hSignals, _⟩
  exact .of_head hSignals
    (.of_unannounced hBare ⟨rfl, hBare.length_eq⟩)

/-
  Every response that is empty, buffered or in memory and whose
  handler announced no body itself is sent with a head that
  announces just the bytes behind it, and the result agrees.
-/
theorem deliver_framed
    (d : Delivery)
    {r : Response MemorySource}
    (hHandler : r.handler = none)
    (hPayload : InMemory r.payload)
    (hLength : r.headers.has "Content-Length" = false)
    (hRange : r.headers.has "Content-Range" = false)
    (q : RequestHead)
    (c : τ) :
    let x := Exchange.start c
    let run := perform (d.deliver r q) x
    Framed run.1 (signals (since x run.2)) := by
  intro x run
  have hRun := perform_deliver hHandler d q x
  have hSettled := d.handler_settled r q hHandler
  change Framed (perform _ x).1
    (signals (since x (perform _ x).2))
  rw [hRun]
  by_cases hDated : Dated r.cookies
  · rw [← d.cookies_settled r q] at hDated
    rcases perform_send hSettled hDated d.codec q x with
      ⟨result, es, x', hSend, hPays, hLeads⟩
    have hAnswered := (answered_append.mp hLeads.answered).2
    have hBare := unannounced_carried hLength hRange d q
    simp only [hSend, hLeads.since_eq, signals_append,
      signals_map_edit, List.nil_append]
    cases hFresh : d.answersFresh r q with
    | true =>
        refine framed_of_fresh hPays hAnswered ?_ hBare
        have hEmpty :=
          (d.payload_settled_of_fresh r q hFresh).1
        rw [payload_encoded d.codec _ q (by simp [hEmpty]),
          hEmpty]
    | false =>
        exact hPays.framed hAnswered
          (inMemory_encoded hPayload d q) hBare
  · rw [← d.cookies_settled r q] at hDated
    have hLeads :=
      leads_edited (cookieEdits (d.settled r q).cookies) x
    rw [perform_send_of_undated hSettled hDated d.codec q x]
    simp only [hLeads.since_eq, signals_map_edit]
    refine Or.inl ⟨rfl, ?_⟩
    cases d.answersFresh r q <;> rfl

/- A greeting of five bytes, of which three are asked. -/
theorem deliver_framed_greeting :
    let d : Delivery := { codec := .standard }
    let r : Response MemorySource :=
      Response.ofStatus 200
        |>.stream (.ofBytes "hello".toUTF8) "text/plain"
    let q : RequestHead :=
      .ofParts "GET" "/" [("Range", "bytes=1-3".toUTF8)]
    let x : Exchange OpenConnection := .start .fresh
    let run := perform (d.deliver r q) x
    Framed run.1 (signals (since x run.2)) := by
  intro d r q x run
  have hPayload : InMemory r.payload := ⟨_, rfl⟩
  have hLength : r.headers.has "Content-Length" = false := by
    decide +kernel
  have hRange : r.headers.has "Content-Range" = false := by
    decide +kernel
  exact deliver_framed d rfl hPayload hLength hRange q
    OpenConnection.fresh

end Delivery

end Courier
