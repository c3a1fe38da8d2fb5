import Courier.Delivery.Ranged
import Courier.Encoding.Selection
import Courier.Request.Head
import Courier.Response.Basic

/-
  This file sends a response whose settings are decided. The
  order is fixed: a handler of its own, the offer of ranges, the
  cookies, the encoding, the headers, and then one of a pushed
  stream, a streamed source, a buffered body or a head alone.

  Key definitions include:
    * `Assembly.promotedSize`
    * `Assembly.isPromoted`
    * `Assembly.encodeBody`
    * `Assembly.sendPayload`
    * `Assembly.send`
-/

namespace Courier.Assembly

open Exchange

variable {τ σ : Type} [Connection τ] [ByteSource σ]

/- What a delivery answers. -/
abbrev Result :=
  Except DeliveryError Delivered

/- The size from which on a buffered body may be streamed. -/
def promotedSize : Nat :=
  10 * 1024 * 1024

/-
  True when a buffered body is streamed instead: the response
  allows it and succeeds, and the client sent a range or the
  body is large.
-/
def isPromoted
    (r : Response σ)
    (q : RequestHead)
    (bytes : ByteArray) : Bool :=
  r.allowStreaming && r.status < 300
    && ((q.header? "Range").any (!·.isEmpty)
      || promotedSize ≤ bytes.size)

/- Offer ranges when the response allows streaming. -/
def offerRanges
    (r : Response σ) : Response σ :=
  if r.allowStreaming then
    r.setHeader "Accept-Ranges" "bytes"
  else
    r

/- Encode a buffered body. -/
def encodeBody
    (codec : Codec)
    (r : Response σ)
    (q : RequestHead) : Response σ :=
  match r.payload with
  | .body bytes =>
      let encoded :=
        codec.apply (r.encoding.getD .auto) r.headers bytes
          (q.header? "Accept-Encoding")
      { r with
        headers := encoded.headers
        payload := .body encoded.body }
  | _ => r

/- A streamed delivery as a delivery. -/
def streamed
    (result : Except DeliveryError StreamOutcome) : Result :=
  result.map .streamed

/- Send a complete response. -/
def sendBuffered
    (status : Nat)
    (bytes : ByteArray) : Act τ Result := do
  match ← sendFull status bytes with
  | .error e => return .error (.send e)
  | .ok () => return .ok (.buffered status bytes.size)

/- Send the body of a response whose headers are copied. -/
def sendPayload
    (r : Response σ)
    (q : RequestHead) : Act τ Result := do
  let settings := r.settings.getD {}
  let contentType := r.headers.get? "Content-Type"
  let range := q.header? "Range"
  match r.payload with
  | .producer producer =>
      return streamed
        (← Pushed.stream r.status contentType settings producer)
  | .source source =>
      return streamed
        (← Ranged.stream source r.status contentType range
          settings)
  | .body bytes =>
      if bytes.isEmpty then
        sendBuffered r.status .empty
      else if isPromoted r q bytes then
        return streamed
          (← Ranged.stream (MemorySource.ofBytes bytes) r.status
            contentType range settings)
      else
        setHeader "Content-Length" (toString bytes.size)
        sendBuffered r.status bytes
  | .empty => sendBuffered r.status .empty

/- Send a response. -/
def send
    (codec : Codec)
    (r : Response σ)
    (q : RequestHead) : Act τ Result := do
  match r.handler with
  | some handler =>
      return (← handler.run).map fun () => .custom
  | none =>
      match ← setCookies r.cookies with
      | .error e => return .error e
      | .ok () =>
          let r := encodeBody codec (offerRanges r) q
          copyHeaders r.headers
          sendPayload r q

end Courier.Assembly
