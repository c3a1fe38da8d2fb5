import Courier.Connection.Basic
import Courier.Cookie
import Courier.Response.Body

/-
  This file defines the channel: a connection whose other end
  is held by a client in the same program. The head is handed
  over once; the chunks of a streamed body wait in a queue.

  Both ends can be given up at any time. A call that would have
  to wait is answered as pending.

  Key definitions include:
    * `Channel`
    * `Channel.sendHead`
    * `Channel.sendFull`
    * `Channel.write`
    * `Channel.flush`
    * `Channel.isClosed`
    * `Channel.takeResponse`
    * `Channel.takeFrame`
-/

namespace Courier

/- The head of a response that the client receives. -/
structure ReceivedHead where
  status : Nat
  headers : WireHeaders
deriving DecidableEq, Repr

/-
  A body on its way: the chunk of a complete response, or the
  queue of the channel.
-/
inductive ChannelBody where
  | once (body : Body)
  | queued

/- What is known about the size of a body on its way. -/
def ChannelBody.hint : ChannelBody → SizeHint
  | .once body => body.hint
  | .queued => .unknown

/- How far the client's end has come. -/
inductive Receiver where
  | waiting
  | ready (head : ReceivedHead) (body : ChannelBody)
  | reading (body : ChannelBody)
  | gone

/-
  Both ends of a channel. The sending end holds the headers set
  so far, whether it is still there, whether the head is still
  to be sent, and whether a streamed body is open. A sender is
  parked once the queue is full, until a chunk is taken.
-/
structure Channel where
  headers : WireHeaders := .empty
  senderAlive : Bool := true
  headUnsent : Bool := true
  bodyOpen : Bool := false
  parked : Bool := false
  queue : List ByteArray := []
  receiver : Receiver := .waiting

namespace Channel

/- How many chunks may wait before a writer is parked. -/
def bufferSize : Nat :=
  4

/- A call is answered now, or would have to wait. -/
inductive Polled (α : Type) where
  | ready (answer : α)
  | pending
deriving DecidableEq, Repr

------------------------------------------------------------
-- The sending end
------------------------------------------------------------

/- True when the client still holds the queue. -/
def queueHeld
    (c : Channel) : Bool :=
  match c.receiver with
  | .ready _ .queued => true
  | .reading .queued => true
  | _ => false

/-
  Hand over a head and a body. This succeeds at most once, and
  the headers set so far go with it. When the client is gone the
  head is lost.
-/
def handOver
    (c : Channel)
    (status : Nat)
    (body : ChannelBody)
    (opens : Bool) : Sent × Channel :=
  if c.headUnsent then
    let head : ReceivedHead := ⟨status, c.headers⟩
    let spent := { c with headUnsent := false, headers := .empty }
    match c.receiver with
    | .waiting =>
        (.ok (),
          { spent with
            bodyOpen := opens
            receiver := .ready head body })
    | _ => (.error .closed, spent)
  else
    (.error (.io .headAlreadySent), c)

/- Send the head of a streamed response. -/
def sendHead
    (status : Nat)
    (c : Channel) : Sent × Channel :=
  c.handOver status .queued true

/- Send a complete response. -/
def sendFull
    (status : Nat)
    (body : ByteArray)
    (c : Channel) : Sent × Channel :=
  c.handOver status (.once (.once body)) false

/- Put a chunk into the queue. -/
def write
    (chunk : ByteArray)
    (c : Channel) : Polled Sent × Channel :=
  if !c.bodyOpen then
    (.ready (.error (.io .writeBeforeHead)), c)
  else if !c.queueHeld then
    (.ready (.error .closed), c)
  else if c.parked then
    (.pending, c)
  else
    let queue := c.queue ++ [chunk]
    (.ready (.ok ()),
      { c with queue, parked := bufferSize < queue.length })

/- Wait until the queue has room again. -/
def flush
    (c : Channel) : Polled Sent :=
  if c.bodyOpen && c.queueHeld && c.parked then
    .pending
  else
    .ready (.ok ())

/- True when the sending end sees that the client is gone. -/
def isClosed
    (c : Channel) : Bool :=
  if c.headUnsent then
    match c.receiver with
    | .waiting => false
    | _ => true
  else
    c.bodyOpen && !c.queueHeld

/- Give up the sending end. -/
def dropSender
    (c : Channel) : Channel :=
  { c with senderAlive := false, bodyOpen := false }

------------------------------------------------------------
-- The client's end
------------------------------------------------------------

/- What asking for the response answers. -/
inductive Answered where
  | absent
  | pending
  | closed
  | response (head : ReceivedHead) (hint : SizeHint)

/-
  Ask for the response, once. When it is not there yet the
  client's end is given up.
-/
def takeResponse
    (c : Channel) : Answered × Channel :=
  match c.receiver with
  | .ready head body =>
      (.response head body.hint,
        { c with receiver := .reading body })
  | .waiting =>
      (if c.senderAlive && c.headUnsent then .pending else .closed,
        { c with receiver := .gone })
  | .reading _ | .gone => (.absent, c)

/- What asking for a frame answers. -/
inductive Taken where
  | absent
  | pending
  | ended
  | frame (frame : Frame)

/- Ask for the next frame of the body. -/
def takeFrame
    (c : Channel) : Taken × Channel :=
  match c.receiver with
  | .reading (.once body) =>
      match body.poll with
      | (some frame, rest) =>
          (.frame frame,
            { c with receiver := .reading (.once rest) })
      | (none, rest) =>
          (.ended, { c with receiver := .reading (.once rest) })
  | .reading .queued =>
      match c.queue with
      | chunk :: rest =>
          (.frame (.ok chunk),
            { c with queue := rest, parked := false })
      | [] => (if c.bodyOpen then .pending else .ended, c)
  | _ => (.absent, c)

/- Give up the response, unless it is taken already. -/
def dropPending
    (c : Channel) : Channel :=
  match c.receiver with
  | .waiting => { c with receiver := .gone }
  | .ready _ _ => { c with receiver := .gone, queue := [] }
  | .reading _ | .gone => c

/- Give up the body, when it is held. -/
def dropBody
    (c : Channel) : Channel :=
  match c.receiver with
  | .reading _ => { c with receiver := .gone, queue := [] }
  | _ => c

/- What is known about the size of the body, if it is held. -/
def bodyHint?
    (c : Channel) : Option SizeHint :=
  match c.receiver with
  | .reading body => some body.hint
  | _ => none

------------------------------------------------------------
-- Steps
------------------------------------------------------------

/- One call on either end of a channel. -/
inductive Step where
  | header (name value : String)
  | setHeader (name value : String)
  | delHeader (name : String)
  | cookie (value : String)
  | sendHead (status : Nat)
  | sendFull (status : Nat) (body : ByteArray)
  | write (chunk : ByteArray)
  | flush
  | isClosed
  | dropSender
  | dropPending
  | dropBody
  | takeResponse
  | takeFrame
  | bodyHint

/- What a step answers. `absent` is a step without its object. -/
inductive StepAnswer where
  | absent
  | headers (headers : WireHeaders)
  | sent (answer : Polled Sent)
  | closed (isClosed : Bool)
  | dropped
  | answered (answer : Answered)
  | taken (answer : Taken)
  | hint (hint : SizeHint)

/- A step of the sending end. -/
def sendingStep
    (c : Channel) : Step → StepAnswer × Channel
  | .header name value =>
      let headers := c.headers.add name value
      (.headers headers, { c with headers })
  | .setHeader name value =>
      let headers := c.headers.set name value
      (.headers headers, { c with headers })
  | .delHeader name =>
      let headers := c.headers.del name
      (.headers headers, { c with headers })
  | .cookie value =>
      let headers := c.headers.add "Set-Cookie" value
      (.headers headers, { c with headers })
  | .sendHead status =>
      let (answer, c) := c.sendHead status
      (.sent (.ready answer), c)
  | .sendFull status body =>
      let (answer, c) := c.sendFull status body
      (.sent (.ready answer), c)
  | .write chunk =>
      let (answer, c) := c.write chunk
      (.sent answer, c)
  | .flush => (.sent c.flush, c)
  | .isClosed => (.closed c.isClosed, c)
  | _ => (.absent, c)

/- One step of either end. -/
def step
    (c : Channel) : Step → StepAnswer × Channel
  | .dropSender => (.dropped, c.dropSender)
  | .dropPending => (.dropped, c.dropPending)
  | .dropBody => (.dropped, c.dropBody)
  | .takeResponse =>
      match c.takeResponse with
      | (.absent, c) => (.absent, c)
      | (answer, c) => (.answered answer, c)
  | .takeFrame =>
      match c.takeFrame with
      | (.absent, c) => (.absent, c)
      | (answer, c) => (.taken answer, c)
  | .bodyHint =>
      match c.bodyHint? with
      | some hint => (.hint hint, c)
      | none => (.absent, c)
  | s => if c.senderAlive then c.sendingStep s else (.absent, c)

/- The answers of a sequence of steps. -/
def run
    (c : Channel) : List Step → List StepAnswer × Channel
  | [] => ([], c)
  | s :: rest =>
      let (answer, c) := c.step s
      let (answers, c) := c.run rest
      (answer :: answers, c)

end Channel

end Courier
