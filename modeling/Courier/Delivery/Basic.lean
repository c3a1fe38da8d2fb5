import Courier.Cache.Tag
import Courier.Delivery.Assembly

/-
  This file delivers responses: it fills in the settings of the
  endpoint, applies the cache policy, answers clients that have
  the response already, and sends the rest.

  Key definitions include:
    * `Delivery`
    * `Delivery.policy?`
    * `Delivery.applyPolicy`
    * `Delivery.isFresh`
    * `Delivery.deliver`
-/

namespace Courier

/-
  The settings of an endpoint. Those that a response makes
  itself come before them.
-/
structure Delivery where
  cachePolicy : Option CachePolicy := none
  encoding : Encoding := .auto
  settings : Option StreamSettings := none
  codec : Codec

namespace Delivery

open Exchange

variable {τ σ : Type} [Connection τ] [ByteSource σ]

/-
  The policy that governs a response: there is one only for a
  successful response to a `GET` request.
-/
def policy?
    (d : Delivery)
    (r : Response σ)
    (q : RequestHead) : Option CachePolicy :=
  if r.status < 300 && q.isGet then
    CachePolicy.pick d.cachePolicy r.cachePolicy r.headers
  else
    none

/- Write the cache headers of a response under a policy. -/
def applyPolicy
    (policy : CachePolicy)
    (r : Response σ) : Response σ :=
  let r := r.setHeader "Cache-Control" policy.render
  match r.payload with
  | .body bytes =>
      if policy.disableTagGeneration then
        r
      else
        { r with headers := Tag.apply r.headers bytes r.tag }
  | _ => r

/- True when the client has the response already. -/
def isFresh
    (policy : CachePolicy)
    (r : Response σ)
    (q : RequestHead) : Bool :=
  !policy.disableAutoResponse
    && Tag.isNotModified r.headers (q.header? "If-None-Match")

/- Fill in the stream settings of the endpoint. -/
def fillSettings
    (d : Delivery)
    (r : Response σ) : Response σ :=
  { r with settings := r.settings.or d.settings }

/- Fill in the encoding of the endpoint. -/
def fillEncoding
    (d : Delivery)
    (r : Response σ) : Response σ :=
  { r with encoding := some (r.encoding.getD d.encoding) }

/-
  Deliver a response to a request. A client that has it already
  gets a head alone, before anything is encoded or streamed.
-/
def deliver
    (d : Delivery)
    (r : Response σ)
    (q : RequestHead) : Act τ Assembly.Result := do
  if r.handler.isSome then
    Assembly.send d.codec r q
  else
    let r := d.fillSettings r
    match d.policy? r q with
    | none => Assembly.send d.codec (d.fillEncoding r) q
    | some policy =>
        let r := applyPolicy policy r
        if isFresh policy r q then
          return (← Assembly.send d.codec r.notModified q).map
            fun _ => .notModified
        else
          Assembly.send d.codec (d.fillEncoding r) q

end Delivery

end Courier
