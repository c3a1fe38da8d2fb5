import Courier.Proofs.Delivery.Settled

/-
  Responses whose source is exchanged for another one. Everything
  that is decided about a response before its payload is sent is
  decided without its source, so an exchange of the source may be
  made before or after.

  Key definitions include:
    * `Payload.mapSource`
    * `Response.mapSource`
    * `Response.SourceIn`

  Main statements:
    * `Delivery.settled_mapSource`
    * `Assembly.encoded_mapSource`
-/

namespace Courier

variable {σ σ' : Type}

------------------------------------------------------------
-- Exchanging the source
------------------------------------------------------------

/- The payload with its source exchanged. -/
def Payload.mapSource
    (f : σ → σ') : Payload σ → Payload σ'
  | .empty => .empty
  | .body bytes => .body bytes
  | .source s => .source (f s)
  | .producer p => .producer p

namespace Response

/- The response with its source exchanged. -/
def mapSource
    (f : σ → σ')
    (r : Response σ) : Response σ' where
  status := r.status
  headers := r.headers
  payload := r.payload.mapSource f
  encoding := r.encoding
  cachePolicy := r.cachePolicy
  allowStreaming := r.allowStreaming
  settings := r.settings
  tag := r.tag
  cookies := r.cookies
  handler := r.handler

@[simp] theorem mapSource_id
    (r : Response σ) :
    r.mapSource id = r := by
  rcases r with ⟨_, _, payload, _, _, _, _, _, _, _⟩
  cases payload <;> rfl

/- A response streams no source but those that are admitted. -/
def SourceIn
    (P : σ → Prop)
    (r : Response σ) : Prop :=
  ∀ source, r.payload = .source source → P source

end Response

------------------------------------------------------------
-- Before the payload is sent
------------------------------------------------------------

namespace Delivery

variable (d : Delivery) (f : σ → σ')
variable (r : Response σ) (q : RequestHead)

theorem policy?_mapSource :
    d.policy? (r.mapSource f) q = d.policy? r q := rfl

theorem governed_mapSource
    (policy : CachePolicy) :
    d.governed (r.mapSource f) policy =
      (d.governed r policy).mapSource f := by
  rcases r with ⟨_, _, payload, _, _, _, _, _, _, _⟩
  unfold governed applyPolicy
  cases payload with
  | body bytes =>
      by_cases hTag : policy.disableTagGeneration = true <;>
        simp [fillSettings, Response.setHeader,
          Response.mapSource, Payload.mapSource, hTag]
  | empty => rfl
  | source source => rfl
  | producer producer => rfl

/- Whether the client has the response is seen without it. -/
theorem isFresh_mapSource
    (policy : CachePolicy) :
    isFresh policy (d.governed (r.mapSource f) policy) q =
      isFresh policy (d.governed r policy) q := by
  rw [governed_mapSource]
  rfl

theorem answersFresh_mapSource :
    d.answersFresh (r.mapSource f) q = d.answersFresh r q := by
  unfold answersFresh
  rw [policy?_mapSource]
  simp only [isFresh_mapSource]

/- Settling a response leaves its source alone. -/
theorem settled_mapSource :
    d.settled (r.mapSource f) q =
      (d.settled r q).mapSource f := by
  unfold settled
  rw [policy?_mapSource]
  cases d.policy? r q with
  | none => rfl
  | some policy =>
      simp only [isFresh_mapSource]
      split
      · rw [governed_mapSource]
        rfl
      · rw [governed_mapSource]
        rfl

/- A settled response streams the source that it had. -/
theorem sourceIn_settled
    {P : σ → Prop}
    {r : Response σ}
    (hSource : r.SourceIn P)
    (d : Delivery)
    (q : RequestHead) :
    (d.settled r q).SourceIn P := by
  intro source hPayload
  cases hFresh : d.answersFresh r q with
  | true =>
      rw [(d.payload_settled_of_fresh r q hFresh).1]
        at hPayload
      cases hPayload
  | false =>
      rw [(d.payload_settled r q hFresh).1] at hPayload
      exact hSource source hPayload

end Delivery

namespace Assembly

variable (codec : Codec) (f : σ → σ')
variable (r : Response σ) (q : RequestHead)

/- Encoding a response leaves its source alone. -/
theorem encoded_mapSource :
    encoded codec (r.mapSource f) q =
      (encoded codec r q).mapSource f := by
  rcases r with ⟨_, _, payload, _, _, allow, _, _, _, _⟩
  unfold encoded encodeBody offerRanges
  cases payload <;> cases allow <;> rfl

/- An encoded response streams the source that it had. -/
theorem sourceIn_encoded
    {P : σ → Prop}
    {r : Response σ}
    (hSource : r.SourceIn P)
    (codec : Codec)
    (q : RequestHead) :
    (encoded codec r q).SourceIn P := by
  intro source hPayload
  by_cases hBody : ∃ bytes, r.payload = .body bytes
  · rcases hBody with ⟨bytes, hBytes⟩
    rcases payload_encoded_of_body codec r q hBytes with
      ⟨packed, hPacked⟩
    rw [hPacked] at hPayload
    cases hPayload
  · rw [payload_encoded codec r q
      (fun bytes hBytes => hBody ⟨bytes, hBytes⟩)] at hPayload
    exact hSource source hPayload

/- A body is promoted whatever a response could stream. -/
theorem isPromoted_mapSource
    (bytes : ByteArray) :
    isPromoted (r.mapSource f) q bytes =
      isPromoted r q bytes := rfl

end Assembly

end Courier
