import Courier.Connection.Exchange

/-
  This file defines handlers that take the connection over and
  write the whole response themselves.

  A handler is a tree of the calls it makes; each call continues
  with what it is answered.

  Key definitions include:
    * `Handler`
    * `Handler.run`
-/

namespace Courier

/- What a handler does next. -/
inductive Handler where
  | done (result : Except String Unit)
  | edit (change : HeaderEdit) (next : Handler)
  | cookie (cookie : Cookie) (next : Handler)
  | head (status : Nat) (next : Sent → Handler)
  | full
      (status : Nat)
      (body : ByteArray)
      (next : Sent → Handler)
  | write (chunk : ByteArray) (next : Sent → Handler)
  | flush (next : Sent → Handler)
  | isClosed (next : Bool → Handler)

namespace Handler

open Exchange

variable {τ : Type} [Connection τ]

/- Carry out the calls of a handler. -/
def run : Handler → Act τ (Except DeliveryError Unit)
  | done (.ok ()) => pure (.ok ())
  | done (.error message) => pure (.error (.handler message))
  | edit change next => do
      modify (editHeaders change)
      log (.reply (.sent (.ok ())))
      run next
  | cookie c next => do
      match ← setCookie c with
      | .error e => return .error e
      | .ok () =>
          log (.reply (.sent (.ok ())))
          run next
  | head status next => do
      let answer ← sendHead status
      log (.reply (.sent answer))
      run (next answer)
  | full status body next => do
      let answer ← sendFull status body
      log (.reply (.sent answer))
      run (next answer)
  | write chunk next => do
      let answer ← Exchange.write chunk
      log (.reply (.sent answer))
      run (next answer)
  | flush next => do
      let answer ← Exchange.flush
      log (.reply (.sent answer))
      run (next answer)
  | isClosed next => do
      let closed ← Exchange.isClosed
      log (.reply (.closed closed))
      run (next closed)

end Handler

end Courier
