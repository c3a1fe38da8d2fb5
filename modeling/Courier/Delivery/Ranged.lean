import Courier.Connection.Exchange
import Courier.Delivery.Outcome
import Courier.Range.Header

/-
  This file streams a byte source to the client and honours the
  `Range` header of the request: the head first, then one
  flushed write for each chunk.

  What a request comes to is decided first, from the header and
  the length alone; the headers and the bytes follow from that.

  Key definitions include:
    * `Ranged.Verdict`
    * `Ranged.verdict`
    * `Ranged.headOnly`
    * `Ranged.reject`
    * `Ranged.askGone`
    * `Ranged.pump`
    * `Ranged.send`
    * `Ranged.stream`
-/

namespace Courier.Ranged

open Exchange

variable {τ σ : Type} [Connection τ] [ByteSource σ]

/- What a streamed delivery answers. -/
abbrev Result :=
  Except DeliveryError StreamOutcome

------------------------------------------------------------
-- Deciding
------------------------------------------------------------

/-
  What a request comes to: one of six ways to send no byte, or
  the part from one position to another, with whether the client
  asked for a part.
-/
inductive Verdict where
  | several
  | malformed
  | zeroChunk
  | noContent
  | beyond
  | unsatisfiable
  | part (start stop : Nat) (asked : Bool)
deriving DecidableEq, Repr

/-
  The order in which faults are found is fixed: several ranges,
  a malformed range, no chunk size, no content, a start beyond
  the content, and a range that selects nothing.
-/
def verdict
    (length chunkSize : Nat)
    (rangeHeader : Option String) : Verdict :=
  match ByteRange.ofHeader rangeHeader with
  | .error .multipleRanges => .several
  | .error (.invalidBound _ _) => .malformed
  | .ok requested =>
      if chunkSize = 0 then
        .zeroChunk
      else if length = 0 then
        .noContent
      else
        let range := requested.getD (.full length)
        if range.start.any (length ≤ ·) then
          .beyond
        else
          match range.resolve length with
          | none => .unsatisfiable
          | some (start, stop) =>
              .part start stop requested.isSome

------------------------------------------------------------
-- Sending no byte
------------------------------------------------------------

/- Send a head without a body and answer a result. -/
def headOnly
    (status : Nat)
    (result : Result) : Act τ Result := do
  match ← sendFull status .empty with
  | .error e => return .error (.send e)
  | .ok () => return result

/- The headers that describe a body that is not sent. -/
def bodyHeaders : List String :=
  ["Content-Length", "Content-Range", "Content-Type",
    "Content-Encoding"]

/- Remove headers in order. -/
def dropHeaders :
    List String → Act τ Unit
  | [] => pure ()
  | name :: rest => do
      delHeader name
      dropHeaders rest

/- The `Content-Range` of content that no range selects from. -/
def unsatisfied
    (length : Nat) : String :=
  "bytes */" ++ toString length

/-
  Answer without a body. A length says that the range selects
  nothing from content of that length.
-/
def reject
    (status : Nat)
    (length : Option Nat) : Act τ Result := do
  dropHeaders bodyHeaders
  setHeader? "Content-Range" (length.map unsatisfied)
  headOnly status (.ok (.rejected status))

------------------------------------------------------------
-- Sending chunks
------------------------------------------------------------

/-
  Ask whether the client went away, when there is more than one
  chunk to send.
-/
def askGone
    (chunkSize owed : Nat) : Act τ Bool :=
  if chunkSize < owed then isClosed else pure false

/-
  Send chunks until `owed` bytes are sent, the source ends or
  the client goes away. The client is asked about between
  chunks when there is more than one.
-/
def pump
    (chunkSize owed sent : Nat)
    (source : σ) : Act τ (Result × σ) :=
  if _done : owed ≤ sent then
    return (.ok (.completed sent), source)
  else do
    let gone ← askGone chunkSize owed
    if gone then
      return (.ok (.aborted sent), source)
    else
      let (answer, source) ←
        readFrom (min chunkSize (owed - sent)) source
      match answer with
      | .error e => return (.error (.io e), source)
      | .ok (chunk, last) =>
          match ← writeAndFlush chunk with
          | .error .closed =>
              return (.ok (.aborted sent), source)
          | .error e => return (.error (.send e), source)
          | .ok () =>
              if _ended : last || chunk.size = 0 then
                return (.ok (.completed (sent + chunk.size)),
                  source)
              else
                pump chunkSize owed (sent + chunk.size) source
termination_by owed - sent
decreasing_by
  simp only [Bool.or_eq_true, decide_eq_true_eq] at _ended
  omega

------------------------------------------------------------
-- Streaming
------------------------------------------------------------

/- The `Content-Range` of a part of content. -/
def contentRange
    (start stop length : Nat) : String :=
  "bytes " ++ toString start ++ "-" ++ toString stop
    ++ "/" ++ toString length

/- Set the headers of a streamed response. -/
def setStreamHeaders
    (contentType : Option String)
    (settings : StreamSettings) : Act τ Unit := do
  setHeader "Accept-Ranges" "bytes"
  setHeader "Connection" "keep-alive"
  setHeader "Keep-Alive" settings.keepAlive
  setHeader? "Content-Type" contentType

/-
  Send a part of a source. A source that is exhausted before its
  first byte is refused.
-/
def sendPart
    (source : σ)
    (status start stop chunkSize : Nat) :
    Act τ (Result × σ) := do
  let owed := stop - start + 1
  setHeader "Content-Length" (toString owed)
  setHeader "Content-Range"
    (contentRange start stop (ByteSource.length source))
  let (exhausted, source) ← skipIn start source
  if exhausted then
    return (← reject 400 none, source)
  else
    match ← sendHead status with
    | .error e => return (.error (.send e), source)
    | .ok () => pump chunkSize owed 0 source

/- Send the selected part of a source, without closing it. -/
def send
    (source : σ)
    (status : Nat)
    (contentType rangeHeader : Option String)
    (settings : StreamSettings) : Act τ (Result × σ) := do
  let length := ByteSource.length source
  match verdict length settings.chunkSize rangeHeader with
  | .several => return (← reject 416 (some length), source)
  | .malformed => return (← reject 400 none, source)
  | .zeroChunk =>
      return (← headOnly 500 (.error (.misuse .zeroChunkSize)),
        source)
  | .noContent =>
      setStreamHeaders contentType settings
      setHeader "Content-Length" "0"
      return (← headOnly status (.ok (.completed 0)), source)
  | .beyond =>
      setStreamHeaders contentType settings
      return (← reject 400 none, source)
  | .unsatisfiable =>
      setStreamHeaders contentType settings
      return (← reject 416 (some length), source)
  | .part start stop asked =>
      setStreamHeaders contentType settings
      sendPart source (if asked then 206 else status) start
        stop settings.chunkSize

/-
  Send the selected part of a source and close it, however the
  sending ends.
-/
def stream
    (source : σ)
    (status : Nat)
    (contentType rangeHeader : Option String)
    (settings : StreamSettings) : Act τ Result := do
  let (result, source) ←
    send source status contentType rangeHeader settings
  closeSource source
  return result

end Courier.Ranged
