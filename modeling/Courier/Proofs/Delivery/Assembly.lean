import Courier.Delivery.Assembly
import Courier.Proofs.Delivery.Pushed
import Courier.Proofs.Delivery.Sends

/-
  Sending a response whose settings are decided: first cookies
  and headers are written, then the payload is sent in one of
  five ways, which a relation names.

  Key definitions include:
    * `Assembly.encoded`
    * `Assembly.carryEdits`
    * `Assembly.Pays`

  Main statements:
    * `Assembly.perform_sendPayload`
    * `Assembly.perform_send`
    * `Assembly.perform_send_of_undated`
-/

namespace Courier.Assembly

open Exchange

variable {τ σ : Type} [Connection τ] [ByteSource σ]

------------------------------------------------------------
-- The payload
------------------------------------------------------------

/- The result of a complete response that was answered so. -/
def bufferedIf
    (answer : Sent)
    (status length : Nat) : Result :=
  match answer with
  | .error e => .error (.send e)
  | .ok () => .ok (.buffered status length)

/- The settings that a response is streamed with. -/
def streamSettings
    (r : Response σ) : StreamSettings :=
  r.settings.getD {}

/-
  With these headers to start with, sending the payload of a
  response causes these events and ends with this result.
-/
inductive Pays
    (r : Response σ)
    (q : RequestHead)
    (w : WireHeaders) : List Event → Result → Prop where
  | bare
      {answer : Sent} {es : List Event}
      (hPayload :
        r.payload = .empty ∨
          ∃ bytes, r.payload = .body bytes ∧ bytes.isEmpty)
      (hCalls : FullCalls r.status w .empty answer es) :
      Pays r q w es (bufferedIf answer r.status 0)
  | buffered
      {bytes : ByteArray} {answer : Sent} {es : List Event}
      (hPayload : r.payload = .body bytes)
      (hBytes : bytes.isEmpty = false)
      (hPromoted : isPromoted r q bytes = false)
      (hCalls :
        FullCalls r.status
          (w.set "Content-Length" (toString bytes.size)) bytes
          answer es) :
      Pays r q w
        (.edit
          (.set "Content-Length" (toString bytes.size)) :: es)
        (bufferedIf answer r.status bytes.size)
  | promoted
      {bytes : ByteArray} {es : List Event}
      {result : Ranged.Result} {s' : MemorySource}
      {last : Event}
      (hPayload : r.payload = .body bytes)
      (hBytes : bytes.isEmpty = false)
      (hPromoted : isPromoted r q bytes = true)
      (hSends :
        Ranged.Sends (MemorySource.ofBytes bytes) r.status
          (r.headers.get? "Content-Type") (q.header? "Range")
          (streamSettings r) w es result s')
      (hLast : last = .close (ByteSource.close s').1) :
      Pays r q w (es ++ [last]) (streamed result)
  | sourced
      {source source' : σ} {es : List Event}
      {result : Ranged.Result} {last : Event}
      (hPayload : r.payload = .source source)
      (hSends :
        Ranged.Sends source r.status
          (r.headers.get? "Content-Type") (q.header? "Range")
          (streamSettings r) w es result source')
      (hLast : last = .close (ByteSource.close source').1) :
      Pays r q w (es ++ [last]) (streamed result)
  | pushed
      {producer : Producer} {answer : Sent}
      {edits : List HeaderEdit} {es : List Event}
      {result : Ranged.Result}
      (hPayload : r.payload = .producer producer)
      (hEdits :
        edits = Pushed.pushEdits
          (r.headers.get? "Content-Type") (streamSettings r))
      (hFollows : Pushed.Follows producer answer es result) :
      Pays r q w
        (edits.map .edit ++
          .head r.status (applyEdits w edits) answer :: es)
        (streamed result)

omit [ByteSource σ] in
theorem perform_sendBuffered
    (status : Nat)
    (bytes : ByteArray)
    (x : Exchange τ) :
    ∃ answer es x',
      perform (sendBuffered status bytes) x =
          (bufferedIf answer status bytes.size, x') ∧
        FullCalls status x.headers bytes answer es ∧
        Leads x es x' := by
  rcases perform_sendFull status bytes x with
    ⟨answer, es, x', hFull, hCalls, hLeads⟩
  refine ⟨answer, es, x', ?_, hCalls, hLeads⟩
  rw [sendBuffered, perform_bind_of_eq hFull]
  cases answer <;> rfl

/- A payload is sent in one of these ways. -/
theorem perform_sendPayload
    (r : Response σ)
    (q : RequestHead)
    (x : Exchange τ) :
    ∃ result es x',
      perform (sendPayload r q) x = (result, x') ∧
        Pays r q x.headers es result ∧ Leads x es x' := by
  unfold sendPayload
  cases hPayload : r.payload with
  | empty =>
      rcases perform_sendBuffered r.status .empty x with
        ⟨answer, es, x', hRun, hCalls, hLeads⟩
      exact ⟨_, es, x', hRun, .bare (Or.inl hPayload) hCalls,
        hLeads⟩
  | body bytes =>
      by_cases hBytes : bytes.isEmpty
      · rcases perform_sendBuffered r.status .empty x with
          ⟨answer, es, x', hRun, hCalls, hLeads⟩
        simp only [hBytes, if_true]
        exact ⟨_, es, x', hRun,
          .bare (Or.inr ⟨bytes, hPayload, hBytes⟩) hCalls,
          hLeads⟩
      rw [Bool.not_eq_true] at hBytes
      by_cases hPromoted : isPromoted r q bytes
      · rcases Ranged.perform_stream
            (MemorySource.ofBytes bytes) r.status
            (r.headers.get? "Content-Type") (q.header? "Range")
            (streamSettings r) x with
          ⟨result, s', es, x', hRun, hSends, hLeads⟩
        simp only [hBytes, hPromoted, Bool.false_eq_true,
          if_false, if_true]
        refine ⟨_, _, x', ?_,
          .promoted hPayload hBytes hPromoted hSends rfl,
          hLeads⟩
        exact perform_bind_of_eq hRun _
      · rw [Bool.not_eq_true] at hPromoted
        rcases perform_sendBuffered r.status bytes
            (edited
              [.set "Content-Length" (toString bytes.size)] x)
          with ⟨answer, es, x', hRun, hCalls, hLeads⟩
        have hEdit :=
          leads_edited
            [.set "Content-Length" (toString bytes.size)] x
        rw [hEdit.headers_eq] at hCalls
        simp only [hBytes, hPromoted, Bool.false_eq_true,
          if_false]
        refine ⟨_, _, x', ?_,
          .buffered hPayload hBytes hPromoted hCalls,
          hEdit.trans hLeads⟩
        rw [perform_bind_of_eq (perform_setHeader _ _ _), hRun]
  | source source =>
      rcases Ranged.perform_stream source r.status
          (r.headers.get? "Content-Type") (q.header? "Range")
          (streamSettings r) x with
        ⟨result, source', es, x', hRun, hSends, hLeads⟩
      refine ⟨_, _, x', ?_, .sourced hPayload hSends rfl,
        hLeads⟩
      exact perform_bind_of_eq hRun _
  | producer producer =>
      rcases Pushed.perform_stream r.status
          (r.headers.get? "Content-Type") (streamSettings r)
          producer x with
        ⟨result, answer, es, x', hRun, hFollows, hLeads⟩
      refine ⟨streamed result, _, x', ?_,
        .pushed hPayload rfl hFollows, hLeads⟩
      exact perform_bind_of_eq hRun _

------------------------------------------------------------
-- The whole response
------------------------------------------------------------

/- The response whose headers are copied to the connection. -/
def encoded
    (codec : Codec)
    (r : Response σ)
    (q : RequestHead) : Response σ :=
  encodeBody codec (offerRanges r) q

/- The changes that write the cookies and the headers. -/
def carryEdits
    (codec : Codec)
    (r : Response σ)
    (q : RequestHead) : List HeaderEdit :=
  cookieEdits r.cookies ++ copyEdits (encoded codec r q).headers

/- Cookies and headers come first, then the payload. -/
theorem perform_send_eq
    {r : Response σ}
    (hHandler : r.handler = none)
    (hDated : Dated r.cookies)
    (codec : Codec)
    (q : RequestHead)
    (x : Exchange τ) :
    perform (send codec r q) x =
      perform (sendPayload (encoded codec r q) q)
        (edited (carryEdits codec r q) x) := by
  have hCookies := perform_setCookies r.cookies x
  rw [if_pos hDated] at hCookies
  simp only [send, hHandler]
  rw [perform_bind_of_eq hCookies]
  simp only
  rw [perform_bind_of_eq (perform_copyHeaders _ _), carryEdits,
    edited_append]
  rfl

theorem perform_send
    {r : Response σ}
    (hHandler : r.handler = none)
    (hDated : Dated r.cookies)
    (codec : Codec)
    (q : RequestHead)
    (x : Exchange τ) :
    ∃ result es x',
      perform (send codec r q) x = (result, x') ∧
        Pays (encoded codec r q) q
          (applyEdits x.headers (carryEdits codec r q)) es
          result ∧
        Leads x ((carryEdits codec r q).map .edit ++ es) x' := by
  have hLeads := leads_edited (carryEdits codec r q) x
  rcases perform_sendPayload (encoded codec r q) q
      (edited (carryEdits codec r q) x) with
    ⟨result, es, x', hRun, hPays, hLeads'⟩
  rw [hLeads.headers_eq, headersAfter_map_edit] at hPays
  rw [perform_send_eq hHandler hDated]
  exact ⟨result, es, x', hRun, hPays, hLeads.trans hLeads'⟩

/- A cookie that cannot be dated stops the response. -/
theorem perform_send_of_undated
    {r : Response σ}
    (hHandler : r.handler = none)
    (hDated : ¬ Dated r.cookies)
    (codec : Codec)
    (q : RequestHead)
    (x : Exchange τ) :
    perform (send codec r q) x =
      (.error .dateOutOfRange,
        edited (cookieEdits r.cookies) x) := by
  have hCookies := perform_setCookies r.cookies x
  rw [if_neg hDated] at hCookies
  simp only [send, hHandler]
  rw [perform_bind_of_eq hCookies]
  rfl

end Courier.Assembly
