/-
  This file defines the settings of a streamed response and how
  a delivery can end.

  Key definitions include:
    * `StreamSettings`
    * `StreamOutcome`
    * `Delivered`
-/

namespace Courier

/-
  How a response is streamed: the largest chunk, and the seconds
  and requests that the connection is offered to stay open for.
-/
structure StreamSettings where
  chunkSize : Nat := 262144
  keepAliveTimeout : Nat := 5
  keepAliveMax : Nat := 1000
deriving DecidableEq, Repr

/- The value of the `Keep-Alive` header. -/
def StreamSettings.keepAlive
    (s : StreamSettings) : String :=
  "timeout=" ++ toString s.keepAliveTimeout
    ++ ", max=" ++ toString s.keepAliveMax

/- How a streamed delivery ended. -/
inductive StreamOutcome where
  | completed (sent : Nat)
  | aborted (sent : Nat)
  | rejected (status : Nat)
deriving DecidableEq, Repr

/- How a response was delivered. -/
inductive Delivered where
  | custom
  | buffered (status length : Nat)
  | notModified
  | streamed (outcome : StreamOutcome)
deriving DecidableEq, Repr

end Courier
