import Courier.Connection.Attended
import Courier.Proofs.Exchange.Message

/-
  A channel whose client keeps up. No call on it has to wait or
  fails, and between two calls it is in one of three states:
  untouched, with a streamed body of which all chunks are taken,
  or with a complete response that is taken.

  Key definitions include:
    * `Channel.streamed`
    * `Channel.complete`
    * `AttendedChannel.reading`
    * `AttendedChannel.served`
    * `AttendedChannel.Received`

  Main statements:
    * `AttendedChannel.write_reading`
    * `AttendedChannel.received_reading`
    * `AttendedChannel.received_served`
-/

namespace Courier

open Trace

------------------------------------------------------------
-- States between calls
------------------------------------------------------------

/- The head is taken and so are all chunks that were written. -/
def Channel.streamed : Channel where
  headUnsent := false
  bodyOpen := true
  receiver := .reading .queued

/- A complete response is taken, and nothing is left of it. -/
def Channel.complete : Channel where
  headUnsent := false
  receiver := .reading (.once .empty)

namespace AttendedChannel

/- The client reads a streamed body. -/
def reading
    (head : ReceivedHead)
    (frames : Array ByteArray) : AttendedChannel where
  channel := .streamed
  head := some head
  frames := frames

/- The client was handed a complete response. -/
def served
    (head : ReceivedHead)
    (body : ByteArray) : AttendedChannel where
  channel := .complete
  head := some head
  frames := if body.isEmpty then #[] else #[body]

------------------------------------------------------------
-- Calls
------------------------------------------------------------

/- A head that is sent first is taken at once. -/
theorem sendHead_untouched
    (status : Nat)
    (headers : WireHeaders) :
    Connection.sendHead status headers ({} : AttendedChannel) =
      (.ok (), reading ⟨status, headers⟩ #[]) := rfl

/- So is a complete response. -/
theorem sendFull_untouched
    (status : Nat)
    (headers : WireHeaders)
    (body : ByteArray) :
    after {}
        (Channel.sendFull status body { headers := headers }) =
      (.ok (), served ⟨status, headers⟩ body) := by
  by_cases hBody : body.isEmpty <;>
    simp [after, Channel.sendFull, Channel.handOver, attend,
      takeHead, takeFrames, Channel.takeResponse,
      Channel.takeFrame, Body.once, Body.empty, Body.poll,
      served, Channel.complete, hBody]

/- A chunk finds room and is taken at once. -/
theorem write_reading
    (chunk : ByteArray)
    (head : ReceivedHead)
    (frames : Array ByteArray) :
    Connection.write chunk (reading head frames) =
      (.ok (), reading head (frames.push chunk)) := rfl

/- There is nothing to wait for. -/
theorem flush_reading
    (head : ReceivedHead)
    (frames : Array ByteArray) :
    Connection.flush (reading head frames) =
      (.ok (), reading head frames) := rfl

/- A client that reads is there. -/
theorem isClosed_reading
    (head : ReceivedHead)
    (frames : Array ByteArray) :
    Connection.isClosed (reading head frames) =
      (false, reading head frames) := rfl

------------------------------------------------------------
-- What is received
------------------------------------------------------------

/-
  The client has received all of a message, and once the sending
  end is given up it learns that the body ended.
-/
structure Received
    (a : AttendedChannel)
    (m : Message) : Prop where
  head_eq : a.head = some ⟨m.status, m.headers⟩
  body_eq : a.body = m.body
  ended : a.channel.dropSender.takeFrame.1 = .ended

/- One more frame is one more piece of the body. -/
theorem body_push
    (head : ReceivedHead)
    (frames : Array ByteArray)
    (chunk : ByteArray) :
    (reading head (frames.push chunk)).body =
      (reading head frames).body ++ chunk :=
  Array.foldl_push

/- A streamed body is received as far as it was written. -/
theorem received_reading
    {m : Message}
    {frames : Array ByteArray}
    (hBody :
      (reading ⟨m.status, m.headers⟩ frames).body = m.body) :
    (reading ⟨m.status, m.headers⟩ frames).Received m where
  head_eq := rfl
  body_eq := hBody
  ended := rfl

/- The one frame of a complete response is its body. -/
theorem body_served
    (head : ReceivedHead)
    (bytes : ByteArray) :
    (served head bytes).body = bytes := by
  by_cases hBody : bytes.isEmpty
  · rw [body, served, if_pos hBody, eq_empty_of_isEmpty hBody]
    rfl
  · rw [body, served, if_neg hBody]
    exact ByteArray.empty_append

/- A complete response is received whole. -/
theorem received_served
    (m : Message) :
    (served ⟨m.status, m.headers⟩ m.body).Received m where
  head_eq := rfl
  body_eq := body_served _ _
  ended := rfl

end AttendedChannel

end Courier
