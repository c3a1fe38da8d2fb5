import Courier.Connection.Exchange
import Courier.Delivery.Outcome

/-
  This file streams what a handler pushes: the head first, then
  one flushed write for each chunk, until the handler ends or
  the client goes away.

  A writer has any number of holders. What they do is a tree of
  calls, each of which continues with what it is answered, so
  that calls by several holders are one sequence of calls.

  Key definitions include:
    * `CallTree`
    * `Pushed.Ending`
    * `Producer`
    * `Pushed.Writer`
    * `Pushed.askClosed`
    * `Pushed.writeChunk`
    * `Pushed.run`
    * `Pushed.ended`
    * `Pushed.stream`
-/

namespace Courier

/-
  What is done with a writer next: write a chunk and learn
  whether the connection is closed, ask how many bytes were
  sent, ask whether the connection is closed, or stop with a
  value.
-/
inductive CallTree (α : Type) where
  | done (value : α)
  | write (chunk : ByteArray) (next : Bool → CallTree α)
  | sent (next : Nat → CallTree α)
  | isClosed (next : Bool → CallTree α)

/-
  What there is when the stream looks up the bytes sent: the
  result of its handler, which has ended, and the calls of those
  who hold the writer still. First come their calls up to the
  moment where the stream asks for the client, then all others.
-/
structure Pushed.Ending where
  result : Except String Unit
  later : CallTree (CallTree Unit) := .done (.done ())

/- The calls on a writer, of its handler and all who hold it. -/
abbrev Producer :=
  CallTree Pushed.Ending

namespace Pushed

open Exchange

variable {τ : Type} [Connection τ]

/- What a writer knows: the bytes sent, and a closed client. -/
structure Writer where
  sent : Nat := 0
  closed : Bool := false
deriving DecidableEq, Repr

/- True when the client is known to be gone, or says so. -/
def askClosed
    (w : Writer) : Act τ Bool :=
  if w.closed then pure true else isClosed

/-
  Write and flush a chunk. Once the client is known to be gone
  nothing is sent any more, and a failure of any kind counts as
  a client that is gone.
-/
def writeChunk
    (chunk : ByteArray)
    (w : Writer) : Act τ (Bool × Writer) := do
  let gone ← askClosed w
  if gone then
    return (true, { w with closed := true })
  else
    match ← writeAndFlush chunk with
    | .error _ => return (true, { w with closed := true })
    | .ok () =>
        return (false, { w with sent := w.sent + chunk.size })

/- Carry out calls, one at a time. -/
def run
    {α : Type} : CallTree α → Writer → Act τ (α × Writer)
  | .done value, w => pure (value, w)
  | .write chunk next, w => do
      let (closed, w) ← writeChunk chunk w
      log (.reply (.closed closed))
      run (next closed) w
  | .sent next, w => do
      log (.reply (.count w.sent))
      run (next w.sent) w
  | .isClosed next, w => do
      let closed ← askClosed w
      log (.reply (.closed closed))
      run (next closed) w

/- The result when the handler ended so, else a closed client. -/
def ended
    (result : Except String Unit)
    (closed : Bool)
    (sent : Nat) : Except DeliveryError StreamOutcome :=
  match result with
  | .error message => .error (.handler message)
  | .ok () =>
      .ok (if closed then .aborted sent else .completed sent)

/-
  What follows the head: the handler runs to its end, the bytes
  sent are looked up, and then the client is asked for. Each of
  these takes the writer for itself, so that others may get to
  it in between. What is called later still makes no difference
  to the result.
-/
def afterHead
    (producer : Producer) :
    Sent → Act τ (Except DeliveryError StreamOutcome)
  | .error e => return .error (.send e)
  | .ok () => do
      let (ending, w) ← run producer {}
      let sent := w.sent
      let (rest, w) ← run ending.later w
      let closed ← askClosed w
      let _ ← run rest w
      return ended ending.result closed sent

/- Send the head and run a producer against the connection. -/
def stream
    (status : Nat)
    (contentType : Option String)
    (settings : StreamSettings)
    (producer : Producer) :
    Act τ (Except DeliveryError StreamOutcome) := do
  setHeader "Connection" "keep-alive"
  setHeader "Keep-Alive" settings.keepAlive
  setHeader? "Content-Type" contentType
  afterHead producer (← sendHead status)

end Pushed

end Courier
