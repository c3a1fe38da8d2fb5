import Courier.Compression.Standard
import Courier.Proofs.Delivery.Messages
import Courier.Proofs.Exchange.OpenConnection
import Courier.Proofs.Header.FieldText
import Courier.Proofs.Range.Grammar

/-
  Body integrity: a buffered body reaches the client as it is,
  or packed in the one coding that the head names, whichever way
  it is sent.

  Main statements:
    * `Assembly.represents_carried`
    * `Delivery.deliver_shows_body`
    * `Delivery.deliver_represents`
-/

namespace Courier

open Exchange Trace

------------------------------------------------------------
-- The coding that is named
------------------------------------------------------------

/- The token of a coding can be carried. -/
theorem Coding.isFieldText_token
    (coding : Coding) :
    Header.isFieldText coding.token := by
  cases coding <;> decide

/- The coding that is named for a body can be carried. -/
theorem Compressor.Represents.filter_isFieldText
    {compressor : Compressor}
    {named : List String}
    {bytes body : ByteArray}
    (hNamed : compressor.Represents named bytes body) :
    named.filter Header.isFieldText = named := by
  rcases hNamed with ⟨rfl, _⟩ | ⟨coding, rfl, _⟩
  · rfl
  · rw [List.filter_cons_of_pos coding.isFieldText_token,
      List.filter_nil]

/- No range is read where none is asked for. -/
theorem ByteRange.ofHeader_of_not_asks
    {header : Option String}
    (hHeader : ∀ spec, ¬ Asks header spec) :
    ofHeader header = .ok none := by
  cases hText : header.bind (Text.afterStart? "bytes=") with
  | none =>
      unfold ofHeader
      rw [hText]
  | some text =>
      have hAsks : Asks header text.toList := by
        rw [asks_iff, hText, String.ofList_toList]
      exact absurd hAsks (hHeader text.toList)

namespace Assembly

variable {σ : Type} {r : Response σ} {bytes : ByteArray}

/- The response that is sent has a body as well. -/
theorem exists_body_encoded
    (codec : Codec)
    (q : RequestHead)
    (hPayload : r.payload = .body bytes)
    (hBytes : bytes.isEmpty = false) :
    ∃ packed,
      (encoded codec r q).payload = .body packed ∧
        packed.isEmpty = false := by
  rcases encoded_of_body codec r q hPayload with ⟨hBody, _⟩
  exact ⟨_, hBody, codec.body_apply_nonempty _ _ _ _ hBytes⟩

/-
  A body that no encoding is named for is represented by the one
  that is sent, under the coding that the connection carries.
-/
theorem represents_carried
    (codec : Codec)
    (q : RequestHead)
    (hPayload : r.payload = .body bytes)
    (hNone : r.headers.getAll "Content-Encoding" = [])
    {packed : ByteArray}
    (hPacked : (encoded codec r q).payload = .body packed) :
    codec.compressor.Represents
      ((applyEdits .empty (carryEdits codec r q)).getAll
        "Content-Encoding")
      packed bytes := by
  rcases encoded_of_body codec r q hPayload with
    ⟨hBody, hHeaders⟩
  have hSame := hPacked.symm.trans hBody
  rw [Payload.body.injEq] at hSame
  have hOffer :
      (offerRanges r).headers.getAll "Content-Encoding" = [] := by
    rw [getAll_offerRanges r (by decide +kernel), hNone]
  have hApplied :=
    codec.represents_apply (r.encoding.getD .auto)
      (offerRanges r).headers bytes (q.header? "Accept-Encoding")
      hOffer
  rw [← hHeaders, ← hSame] at hApplied
  rw [getAll_carried codec r q (by decide +kernel)
      (by decide +kernel),
    hApplied.filter_isFieldText]
  exact hApplied

end Assembly

------------------------------------------------------------
-- Every delivery
------------------------------------------------------------

namespace Delivery

open Assembly

variable {τ σ : Type} [Connection τ] [Connection.NeverFails τ]
variable [ByteSource σ]

/- The body that a response is sent with goes out whole. -/
theorem deliver_shows_body
    {r : Response σ}
    {d : Delivery}
    {q : RequestHead}
    (hHandler : r.handler = none)
    (hDated : Dated r.cookies)
    (hFresh : d.answersFresh r q = false)
    (hChunk : 0 < (streamSettings (d.fillSettings r)).chunkSize)
    {packed : ByteArray}
    (hPacked :
      (encoded d.codec (d.settled r q) q).payload =
        .body packed)
    (hNonempty : packed.isEmpty = false)
    (hRange :
      ByteRange.ofHeader (q.header? "Range") = .ok none)
    (c : τ) :
    ShowsWhole packed (encoded d.codec (d.settled r q) q)
      (applyEdits .empty
        (carryEdits d.codec (d.settled r q) q))
      (signals
        (since (.start c)
          (perform (d.deliver r q) (.start c)).2)) := by
  rcases exists_pays_of_dated hHandler hDated d q c with
    ⟨result, es, _, _, hSignals, hAnswered, hPays⟩
  rw [← streamSettings_sent hFresh] at hChunk
  rw [hSignals]
  exact hPays.shows_body hAnswered hPacked hNonempty hChunk
    hRange

/-
  A buffered body that no encoding is named for reaches a client
  that does not have it already: its own bytes do, or bytes that
  the coding in the head reads back as them. A client that has
  it is sent a 304 without any bytes. The request asks for no
  range, and a promoted body is cut to chunks that are not
  empty.
-/
theorem deliver_represents
    {r : Response σ}
    {bytes : ByteArray}
    (hHandler : r.handler = none)
    (hPayload : r.payload = .body bytes)
    (hBytes : bytes.isEmpty = false)
    (hNone : r.headers.has "Content-Encoding" = false)
    (hDated : Dated r.cookies)
    {d : Delivery}
    (hChunk : 0 < (streamSettings (d.fillSettings r)).chunkSize)
    {q : RequestHead}
    (hRange :
      ∀ spec, ¬ ByteRange.Asks (q.header? "Range") spec)
    (c : τ) :
    let x := Exchange.start c
    let run := perform (d.deliver r q) x
    let seen := signals (since x run.2)
    (d.answersFresh r q = true →
        run.1 = .ok .notModified ∧
          ∃ headers, Shows seen ⟨304, headers, .empty⟩) ∧
      (d.answersFresh r q = false →
        ∃ headers body,
          Shows seen ⟨r.status, headers, body⟩ ∧
            d.codec.compressor.Represents
              (headers.getAll "Content-Encoding") body
              bytes) := by
  intro x run seen
  constructor
  · intro hFresh
    exact deliver_shows_notModified hHandler hDated hFresh c
  · intro hFresh
    rcases d.payload_settled r q hFresh with
      ⟨hKept, hStatus⟩
    have hSettled : (d.settled r q).payload = .body bytes :=
      hKept.trans hPayload
    have hOwn :
        (d.settled r q).headers.getAll "Content-Encoding" =
          [] := by
      rw [d.getAll_settled r q (by decide +kernel)]
      exact (r.headers.has_eq_false_iff _).mp hNone
    rcases exists_body_encoded d.codec q hSettled hBytes with
      ⟨packed, hPacked, hNonempty⟩
    have hWhole :
        ByteRange.ofHeader (q.header? "Range") = .ok none :=
      ByteRange.ofHeader_of_not_asks hRange
    rcases deliver_shows_body hHandler hDated hFresh hChunk
        hPacked hNonempty hWhole c with
      ⟨edits, hEdits, hShows⟩
    have hRepresents :=
      represents_carried d.codec q hSettled hOwn hPacked
    rw [status_encoded, hStatus] at hShows
    refine ⟨_, packed, hShows, ?_⟩
    rw [hEdits.getAll_applyEdits (by decide +kernel)]
    exact hRepresents

/-
  A text that is packed and then streamed, since the client asks
  for a range in a unit of its own.
-/
theorem deliver_represents_of_streamed_text :
    let d : Delivery :=
      { codec :=
          { rules := { brotliMinSize := 1 }
            compressor := .standard } }
    let r : Response MemorySource :=
      { (Response.ofStatus 200).text "hello" "text/plain" with
        allowStreaming := true }
    let q : RequestHead :=
      .ofParts "GET" "/"
        [("Accept-Encoding", "br".toUTF8),
          ("Range", "lines=1-3".toUTF8)]
    d.answersFresh r q = false ∧
      ∃ headers body,
        Shows
            (signals
              (since (.start OpenConnection.fresh)
                (perform (d.deliver r q) (.start .fresh)).2))
            ⟨200, headers, body⟩ ∧
          d.codec.compressor.Represents
            (headers.getAll "Content-Encoding") body
            "hello".toUTF8 := by
  intro d r q
  have hBytes : "hello".toUTF8.isEmpty = false := by decide
  have hNone : r.headers.has "Content-Encoding" = false := by
    decide +kernel
  have hDated : Dated r.cookies := by decide
  have hChunk :
      0 < (streamSettings (d.fillSettings r)).chunkSize := by
    decide
  have hHeader :
      (q.header? "Range").bind (Text.afterStart? "bytes=") =
        none := by
    decide +kernel
  have hRange :
      ∀ spec, ¬ ByteRange.Asks (q.header? "Range") spec := by
    intro spec hAsks
    rw [ByteRange.asks_iff, hHeader] at hAsks
    cases hAsks
  have hFresh : d.answersFresh r q = false := by
    decide +kernel
  rcases deliver_represents rfl rfl hBytes hNone hDated hChunk
      hRange OpenConnection.fresh with ⟨_, hShows⟩
  exact ⟨hFresh, hShows hFresh⟩

end Delivery

end Courier
