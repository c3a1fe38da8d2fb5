import Courier.Error
import Courier.Header.Wire

/-
  This file defines connections: the sending side of one
  exchange with a client.

  Key definitions include:
    * `Sent`
    * `Connection`
    * `Connection.NeverFails`
-/

namespace Courier

/- What a call on the connection answers. -/
abbrev Sent :=
  Except SendError Unit

/-
  A state that a response can be sent through. A connection may
  offer to take a complete response in one call; without that
  offer it is sent as a head, a write and a flush. Asking
  whether the client went away may change the answer next time.
-/
class Connection (τ : Type) where
  sendHead : Nat → WireHeaders → τ → Sent × τ
  sendFull? :
    Option (Nat → WireHeaders → ByteArray → τ → Sent × τ)
  write : ByteArray → τ → Sent × τ
  flush : τ → Sent × τ
  isClosed : τ → Bool × τ

/- A connection whose calls all succeed and that stays open. -/
class Connection.NeverFails
    (τ : Type)
    [Connection τ] : Prop where
  sendHead_ok :
    ∀ (status : Nat) (headers : WireHeaders) (t : τ),
      (Connection.sendHead status headers t).1 = .ok ()
  sendFull_ok :
    ∀ send ∈ Connection.sendFull? (τ := τ),
      ∀ status headers body t,
        (send status headers body t).1 = .ok ()
  write_ok :
    ∀ (chunk : ByteArray) (t : τ),
      (Connection.write chunk t).1 = .ok ()
  flush_ok :
    ∀ t : τ, (Connection.flush t).1 = .ok ()
  isClosed_false :
    ∀ t : τ, (Connection.isClosed t).1 = false

end Courier
