import Courier.Connection.Basic

/-
  This file defines the plain connection: it takes a response in
  steps and fails where it was told to.

  Key definitions include:
    * `Plan`
    * `PlannedConnection`
    * `PlannedConnection.call`
-/

namespace Courier

/- A failure from the call on that many earlier ones precede. -/
structure Plan where
  after : Nat
  error : SendError
deriving DecidableEq, Repr

/-
  A connection that counts the writes and flushes that succeed,
  with the plan for each kind of call, and the number of writes
  after which the client is gone. Heads are not counted: nothing
  ever precedes one.
-/
structure PlannedConnection where
  closeAfter : Option Nat := none
  headPlan : Option Plan := none
  writePlan : Option Plan := none
  flushPlan : Option Plan := none
  writes : Nat := 0
  flushes : Nat := 0
deriving DecidableEq, Repr

namespace PlannedConnection

/- What a call answers when `count` calls succeeded before. -/
def planned
    (plan : Option Plan)
    (count : Nat) : Sent :=
  match plan with
  | some p => if p.after ≤ count then .error p.error else .ok ()
  | none => .ok ()

/- True when the client is gone. -/
def gone
    (c : PlannedConnection) : Bool :=
  c.closeAfter.any (· ≤ c.writes)

/- Answer a call and count it when it succeeds. -/
def call
    (c : PlannedConnection)
    (answer : Sent)
    (counted : PlannedConnection) : Sent × PlannedConnection :=
  match answer with
  | .ok () => (.ok (), counted)
  | .error e => (.error e, c)

instance : Connection PlannedConnection where
  sendHead _ _ c :=
    c.call (planned c.headPlan 0) c
  sendFull? := none
  write _ c :=
    c.call
      (if c.gone then .error .closed
        else planned c.writePlan c.writes)
      { c with writes := c.writes + 1 }
  flush c :=
    c.call (planned c.flushPlan c.flushes)
      { c with flushes := c.flushes + 1 }
  isClosed c := (c.gone, c)

end PlannedConnection

end Courier
