import Courier.Proofs.Delivery.OtherSource
import Courier.Proofs.Exchange.Together

/-
  Deliveries over connections that are in lockstep. Each way to
  send a response makes its calls in the order in which such
  connections answer alike, so that both deliveries end with the
  same result and with exchanges that are related.

  A part of a source may be sent from two sources that are
  alike, and a response may stream from either of two sources
  that can take each other's place.

  Main statements:
    * `Ranged.together_pump`
    * `Ranged.together_send`
    * `Pushed.together_run`
    * `Pushed.together_stream`
    * `Assembly.together_sendPayload`
    * `Delivery.together_deliver_mapSource`
    * `Delivery.together_deliver`
-/

namespace Courier

open Exchange

variable {τ ρ : Type} [Connection τ] [Connection ρ]
variable (k : Lockstep τ ρ)

------------------------------------------------------------
-- Parts of sources
------------------------------------------------------------

namespace Ranged

/- A head alone is sent over both. -/
theorem together_headOnly
    (status : Nat)
    (result : Result) :
    Together k.Unsent (headOnly status result : Act τ _)
      (headOnly status result : Act ρ _) (Same k.Complete) := by
  refine (k.sendFull status .empty).bind_same fun answer => ?_
  cases answer with
  | error e => exact .pure fun x y hComplete => ⟨rfl, hComplete⟩
  | ok _ => exact .pure fun x y hComplete => ⟨rfl, hComplete⟩

/- A refusal is sent over both. -/
theorem together_reject
    (status : Nat)
    (length : Option Nat) :
    Together k.Unsent (reject status length : Act τ _)
      (reject status length : Act ρ _) (Same k.Complete) := by
  have hDrop :
      Together k.Unsent (dropHeaders bodyHeaders : Act τ _)
        (dropHeaders bodyHeaders : Act ρ _) (Same k.Unsent) :=
    k.together_edited (perform_dropHeaders bodyHeaders)
      (perform_dropHeaders bodyHeaders)
  have hRange :=
    k.together_edited
      (perform_setHeader? "Content-Range"
        (length.map unsatisfied))
      (perform_setHeader? "Content-Range"
        (length.map unsatisfied))
  refine hDrop.bind_same fun _ => ?_
  refine hRange.bind_same fun _ => ?_
  exact together_headOnly k status _

section Sources

variable {σ σ' : Type} [ByteSource σ] [ByteSource σ']
variable {R : σ → σ' → Prop} {s : σ} {t : σ'}

/- Both clients are asked about in the same rounds. -/
theorem together_askGone
    (chunkSize owed : Nat) :
    Together k.Streaming (askGone chunkSize owed : Act τ _)
      (askGone chunkSize owed : Act ρ _)
      (Same k.Streaming) := by
  unfold askGone
  split
  · exact k.isClosed
  · exact .pure fun x y hStreaming => ⟨rfl, hStreaming⟩

/- The loop sends the same chunks from both sources. -/
theorem together_pump
    (hAlike : ByteSource.Alike R)
    (hStates : R s t)
    (chunkSize owed sent : Nat) :
    Together k.Streaming (pump chunkSize owed sent s : Act τ _)
      (pump chunkSize owed sent t : Act ρ _)
      (Drawn R k.Streaming) := by
  -- The measure of the loop: the bytes that are still owed.
  induction hMeasure : owed - sent using Nat.strongRecOn
    generalizing sent s t with
  | ind measure ih =>
    unfold pump
    by_cases hDone : owed ≤ sent
    · rw [dif_pos hDone, dif_pos hDone]
      exact .pure fun x y hStreaming =>
        ⟨rfl, hStates, hStreaming⟩
    rw [dif_neg hDone, dif_neg hDone]
    refine (together_askGone k chunkSize owed).bind_same ?_
    intro gone
    cases gone with
    | true =>
        exact .pure fun x y hStreaming =>
          ⟨rfl, hStates, hStreaming⟩
    | false =>
      have hRead :=
        together_readFrom k.notes_streaming hAlike hStates
          (min chunkSize (owed - sent))
      refine hRead.bind_drawn ?_
      intro answer s' t' hNext
      cases answer with
      | error e =>
          exact .pure fun x y hStreaming =>
            ⟨rfl, hNext, hStreaming⟩
      | ok pair =>
        rcases pair with ⟨chunk, last⟩
        refine (k.writeAndFlush chunk).bind_same ?_
        intro answer
        cases answer with
        | error e =>
            cases e with
            | closed =>
                exact .pure fun x y hStreaming =>
                  ⟨rfl, hNext, hStreaming⟩
            | io cause =>
                exact .pure fun x y hStreaming =>
                  ⟨rfl, hNext, hStreaming⟩
        | ok _ =>
            by_cases hEnded :
                (last || decide (chunk.size = 0)) = true
            · simp only
              rw [dif_pos hEnded, dif_pos hEnded]
              exact .pure fun x y hStreaming =>
                ⟨rfl, hNext, hStreaming⟩
            · simp only
              rw [dif_neg hEnded, dif_neg hEnded]
              rw [Bool.or_eq_true, decide_eq_true_eq,
                not_or] at hEnded
              exact ih (owed - (sent + chunk.size)) (by omega)
                hNext (sent + chunk.size) rfl

/- A part is sent from both sources. -/
theorem together_sendPart
    (hAlike : ByteSource.Alike R)
    (hStates : R s t)
    (status start stop chunkSize : Nat) :
    Together k.Unsent
      (sendPart s status start stop chunkSize : Act τ _)
      (sendPart t status start stop chunkSize : Act ρ _)
      (Drawn R k.Complete) := by
  have hSet :
      ∀ name value,
        Together k.Unsent (setHeader name value : Act τ _)
          (setHeader name value : Act ρ _) (Same k.Unsent) :=
    fun name value =>
      k.together_edited (perform_setHeader name value)
        (perform_setHeader name value)
  have hSkip :=
    together_skipIn k.notes_unsent hAlike hStates start
  unfold sendPart
  rw [hAlike.length_eq hStates]
  refine (hSet _ _).bind_same fun _ => ?_
  refine (hSet _ _).bind_same fun _ => ?_
  refine hSkip.bind_drawn ?_
  intro exhausted s' t' hNext
  cases exhausted with
  | true =>
      refine (together_reject k 400 none).bind_same ?_
      intro result
      exact .pure fun x y hComplete => ⟨rfl, hNext, hComplete⟩
  | false =>
      refine (k.sendHead status).bind_same ?_
      intro answer
      cases answer with
      | error e =>
          exact .pure fun x y hStreaming =>
            ⟨rfl, hNext, k.complete x y hStreaming⟩
      | ok _ =>
          intro x y hStreaming
          rcases together_pump k hAlike hNext chunkSize
              (stop - start + 1) 0 x y hStreaming with
            ⟨hResult, hLeft, hRest⟩
          exact ⟨hResult, hLeft, k.complete _ _ hRest⟩

/- The selected part is sent from both sources. -/
theorem together_send
    (hAlike : ByteSource.Alike R)
    (hStates : R s t)
    (status : Nat)
    (contentType rangeHeader : Option String)
    (settings : StreamSettings) :
    Together k.Unsent
      (send s status contentType rangeHeader settings : Act τ _)
      (send t status contentType rangeHeader settings : Act ρ _)
      (Drawn R k.Complete) := by
  have hStream :=
    k.together_edited
      (perform_setStreamHeaders contentType settings)
      (perform_setStreamHeaders contentType settings)
  have hEmpty :=
    k.together_edited (perform_setHeader "Content-Length" "0")
      (perform_setHeader "Content-Length" "0")
  -- Behind what sends no byte both sources are as they were.
  have hBodyless :
      ∀ {act : Act τ Result} {act' : Act ρ Result},
        Together k.Unsent act act' (Same k.Complete) →
          Together k.Unsent
            (act >>= fun result => pure (result, s))
            (act' >>= fun result => pure (result, t))
            (Drawn R k.Complete) := by
    intro act act' hActs
    refine hActs.bind_same fun result => ?_
    exact .pure fun x y hComplete => ⟨rfl, hStates, hComplete⟩
  unfold send
  simp only [hAlike.length_eq hStates]
  cases verdict (ByteSource.length t) settings.chunkSize
      rangeHeader with
  | several => exact hBodyless (together_reject k 416 _)
  | malformed => exact hBodyless (together_reject k 400 none)
  | zeroChunk => exact hBodyless (together_headOnly k 500 _)
  | noContent =>
      refine hStream.bind_same fun _ => ?_
      refine hEmpty.bind_same fun _ => ?_
      exact hBodyless (together_headOnly k status _)
  | beyond =>
      refine hStream.bind_same fun _ => ?_
      exact hBodyless (together_reject k 400 none)
  | unsatisfiable =>
      refine hStream.bind_same fun _ => ?_
      exact hBodyless (together_reject k 416 _)
  | part start stop asked =>
      refine hStream.bind_same fun _ => ?_
      exact together_sendPart k hAlike hStates _ start stop _

/- Both sources are sent and closed. -/
theorem together_stream
    (hAlike : ByteSource.Interchangeable R)
    (hStates : R s t)
    (status : Nat)
    (contentType rangeHeader : Option String)
    (settings : StreamSettings) :
    Together k.Unsent
      (stream s status contentType rangeHeader settings :
        Act τ _)
      (stream t status contentType rangeHeader settings :
        Act ρ _)
      (Same k.Complete) := by
  have hSend :=
    together_send k hAlike.toAlike hStates status contentType
      rangeHeader settings
  refine hSend.bind_drawn ?_
  intro result left left' hLeft
  have hClose :=
    k.notes_complete (.close (ByteSource.close left).1) trivial
  simp only [closeSource]
  rw [← hAlike.close_eq hLeft]
  exact hClose.bind_same fun _ =>
    .pure fun x y hComplete => ⟨rfl, hComplete⟩

end Sources

end Ranged

------------------------------------------------------------
-- Pushed streams
------------------------------------------------------------

namespace Pushed

/- Both clients are asked about by the writer. -/
theorem together_askClosed
    (w : Writer) :
    Together k.Streaming (askClosed w : Act τ _)
      (askClosed w : Act ρ _) (Same k.Streaming) := by
  unfold askClosed
  split
  · exact .pure fun x y hStreaming => ⟨rfl, hStreaming⟩
  · exact k.isClosed

/- A chunk is written over both. -/
theorem together_writeChunk
    (chunk : ByteArray)
    (w : Writer) :
    Together k.Streaming (writeChunk chunk w : Act τ _)
      (writeChunk chunk w : Act ρ _) (Same k.Streaming) := by
  refine (together_askClosed k w).bind_same fun gone => ?_
  cases gone with
  | true => exact .pure fun x y hStreaming => ⟨rfl, hStreaming⟩
  | false =>
      refine (k.writeAndFlush chunk).bind_same fun answer => ?_
      cases answer with
      | error e =>
          exact .pure fun x y hStreaming => ⟨rfl, hStreaming⟩
      | ok _ =>
          exact .pure fun x y hStreaming => ⟨rfl, hStreaming⟩

/- Calls are answered alike and run alike. -/
theorem together_run
    {α : Type}
    (tree : CallTree α)
    (w : Writer) :
    Together k.Streaming (run tree w : Act τ _)
      (run tree w : Act ρ _) (Same k.Streaming) := by
  have hReply :
      ∀ answer,
        Together k.Streaming
          (log (.reply answer) : Act τ Unit)
          (log (.reply answer) : Act ρ Unit)
          (Same k.Streaming) :=
    fun answer => k.notes_streaming (.reply answer) trivial
  induction tree generalizing w with
  | done value =>
      exact .pure fun x y hStreaming => ⟨rfl, hStreaming⟩
  | write chunk next ih =>
      refine (together_writeChunk k chunk w).bind_same ?_
      rintro ⟨closed, w'⟩
      refine (hReply _).bind_same fun _ => ?_
      exact ih closed w'
  | sent next ih =>
      refine (hReply _).bind_same fun _ => ?_
      exact ih w.sent w
  | isClosed next ih =>
      refine (together_askClosed k w).bind_same ?_
      intro closed
      refine (hReply _).bind_same fun _ => ?_
      exact ih closed w

/- What follows the head is alike. -/
theorem together_afterHead
    (producer : Producer)
    (answer : Sent) :
    Together k.Streaming (afterHead producer answer : Act τ _)
      (afterHead producer answer : Act ρ _)
      (Same k.Streaming) := by
  cases answer with
  | error e =>
      exact .pure fun x y hStreaming => ⟨rfl, hStreaming⟩
  | ok _ =>
      refine (together_run k producer {}).bind_same ?_
      rintro ⟨ending, w⟩
      refine (together_run k ending.later w).bind_same ?_
      rintro ⟨rest, w'⟩
      refine (together_askClosed k w').bind_same fun closed => ?_
      refine (together_run k rest w').bind_same fun _ => ?_
      exact .pure fun x y hStreaming => ⟨rfl, hStreaming⟩

/- A pushed response is sent over both. -/
theorem together_stream
    (status : Nat)
    (contentType : Option String)
    (settings : StreamSettings)
    (producer : Producer) :
    Together k.Unsent
      (stream status contentType settings producer : Act τ _)
      (stream status contentType settings producer : Act ρ _)
      (Same k.Complete) := by
  have hSet :
      ∀ name value,
        Together k.Unsent (setHeader? name value : Act τ _)
          (setHeader? name value : Act ρ _) (Same k.Unsent) :=
    fun name value =>
      k.together_edited (perform_setHeader? name value)
        (perform_setHeader? name value)
  refine (hSet "Connection" (some "keep-alive")).bind_same
    fun _ => ?_
  refine (hSet "Keep-Alive" (some settings.keepAlive)).bind_same
    fun _ => ?_
  refine (hSet "Content-Type" contentType).bind_same
    fun _ => ?_
  refine (k.sendHead status).bind_same fun answer => ?_
  exact (together_afterHead k producer answer).weaken k.complete

end Pushed

------------------------------------------------------------
-- Responses
------------------------------------------------------------

variable {σ σ' : Type} [ByteSource σ] [ByteSource σ']
variable {R : σ → σ' → Prop} {f : σ → σ'}

namespace Assembly

/- A complete response is sent over both. -/
theorem together_sendBuffered
    (status : Nat)
    (bytes : ByteArray) :
    Together k.Unsent (sendBuffered status bytes : Act τ _)
      (sendBuffered status bytes : Act ρ _)
      (Same k.Complete) := by
  refine (k.sendFull status bytes).bind_same fun answer => ?_
  cases answer with
  | error e => exact .pure fun x y hComplete => ⟨rfl, hComplete⟩
  | ok _ => exact .pure fun x y hComplete => ⟨rfl, hComplete⟩

/- Every payload is sent over both, from either source. -/
theorem together_sendPayload
    (hAlike : ByteSource.Interchangeable R)
    {r : Response σ}
    (hSource : r.SourceIn fun s => R s (f s))
    (q : RequestHead) :
    Together k.Unsent (sendPayload r q : Act τ _)
      (sendPayload (r.mapSource f) q : Act ρ _)
      (Same k.Complete) := by
  -- A streamed result is reported as a delivery.
  have hStreamed :
      ∀ {act : Act τ Ranged.Result} {act' : Act ρ Ranged.Result},
        Together k.Unsent act act' (Same k.Complete) →
          Together k.Unsent
            (act >>= fun result => pure (streamed result))
            (act' >>= fun result => pure (streamed result))
            (Same k.Complete) := by
    intro act act' hActs
    refine hActs.bind_same fun result => ?_
    exact .pure fun x y hComplete => ⟨rfl, hComplete⟩
  have hPayload :
      (r.mapSource f).payload = r.payload.mapSource f := rfl
  unfold sendPayload
  rw [hPayload]
  cases hKind : r.payload with
  | empty => exact together_sendBuffered k r.status .empty
  | producer producer =>
      exact hStreamed
        (Pushed.together_stream k r.status _ _ producer)
  | source source =>
      exact hStreamed
        (Ranged.together_stream k hAlike (hSource source hKind)
          r.status _ _ _)
  | body bytes =>
      simp only [Payload.mapSource]
      by_cases hBytes : bytes.isEmpty
      · simp only [hBytes, if_true]
        exact together_sendBuffered k r.status .empty
      by_cases hPromoted : isPromoted r q bytes
      · simp only [hBytes, hPromoted, isPromoted_mapSource,
          Bool.false_eq_true, if_false, if_true]
        exact hStreamed
          (Ranged.together_stream k (.refl MemorySource) rfl
            r.status _ _ _)
      · simp only [hBytes, hPromoted, isPromoted_mapSource,
          Bool.false_eq_true, if_false]
        have hLength :=
          k.together_edited
            (perform_setHeader "Content-Length"
              (toString bytes.size))
            (perform_setHeader "Content-Length"
              (toString bytes.size))
        refine hLength.bind_same fun _ => ?_
        exact together_sendBuffered k r.status bytes

/- Cookies and headers are written over both, then the payload. -/
theorem together_send
    (hAlike : ByteSource.Interchangeable R)
    {r : Response σ}
    (hHandler : r.handler = none)
    (hDated : Dated r.cookies)
    (hSource : r.SourceIn fun s => R s (f s))
    (codec : Codec)
    (q : RequestHead) :
    Together k.Unsent (send codec r q : Act τ _)
      (send codec (r.mapSource f) q : Act ρ _)
      (Same k.Complete) := by
  intro x y hUnsent
  have hMapped : (r.mapSource f).handler = none := hHandler
  have hCarried :
      carryEdits codec (r.mapSource f) q =
        carryEdits codec r q := by
    rw [carryEdits, carryEdits, encoded_mapSource]
    rfl
  have hEdited :=
    k.unsent_edited (carryEdits codec r q) hUnsent
  rw [perform_send_eq hHandler hDated,
    perform_send_eq hMapped hDated, hCarried,
    encoded_mapSource]
  exact together_sendPayload k hAlike
    (sourceIn_encoded hSource codec q) q _ _ hEdited

end Assembly

namespace Delivery

/-
  Every dated response is delivered alike over both, also when
  one of them streams from another source.
-/
theorem together_deliver_mapSource
    (hAlike : ByteSource.Interchangeable R)
    {r : Response σ}
    (hHandler : r.handler = none)
    (hDated : Dated r.cookies)
    (hSource : r.SourceIn fun s => R s (f s))
    (d : Delivery)
    (q : RequestHead) :
    Together k.Unsent (d.deliver r q : Act τ _)
      (d.deliver (r.mapSource f) q : Act ρ _)
      (Same k.Complete) := by
  intro x y hUnsent
  have hSettled : Dated (d.settled r q).cookies := by
    rw [cookies_settled]
    exact hDated
  have hMapped : (r.mapSource f).handler = none := hHandler
  rcases Assembly.together_send k hAlike
      (d.handler_settled r q hHandler) hSettled
      (sourceIn_settled hSource d q) d.codec q x y hUnsent with
    ⟨hResult, hComplete⟩
  rw [perform_deliver hHandler d q x,
    perform_deliver hMapped d q y, settled_mapSource,
    answersFresh_mapSource]
  exact ⟨congrArg (reported (d.answersFresh r q)) hResult,
    hComplete⟩

/- Every dated response is delivered alike over both. -/
theorem together_deliver
    {r : Response σ}
    (hHandler : r.handler = none)
    (hDated : Dated r.cookies)
    (d : Delivery)
    (q : RequestHead) :
    Together k.Unsent (d.deliver r q : Act τ _)
      (d.deliver r q : Act ρ _) (Same k.Complete) := by
  have hSource : r.SourceIn fun s => id s = s :=
    fun _ _ => rfl
  have hMapped :=
    together_deliver_mapSource k (.refl σ) hHandler hDated
      hSource d q
  rw [Response.mapSource_id] at hMapped
  exact hMapped

end Delivery

end Courier
