import Courier.Connection.Planned

/-
  The plain connection that was told no failure. It never fails
  and stays open.

  Key definitions include:
    * `PlannedConnection.IsOpen`
    * `OpenConnection`
-/

namespace Courier

/- No call fails and the client stays. -/
structure PlannedConnection.IsOpen
    (c : PlannedConnection) : Prop where
  closeAfter_eq : c.closeAfter = none
  headPlan_eq : c.headPlan = none
  writePlan_eq : c.writePlan = none
  flushPlan_eq : c.flushPlan = none

/- A plain connection without a planned failure. -/
abbrev OpenConnection :=
  { c : PlannedConnection // c.IsOpen }

namespace OpenConnection

/- The connection before any call. -/
def fresh : OpenConnection :=
  ⟨{}, ⟨rfl, rfl, rfl, rfl⟩⟩

/- The client of an open connection is there. -/
theorem gone_eq_false
    (c : OpenConnection) :
    c.val.gone = false := by
  simp [PlannedConnection.gone, c.property.closeAfter_eq]

/- Counting a write or a flush leaves a connection open. -/
theorem isOpen_call
    {c counted : PlannedConnection}
    (hOpen : c.IsOpen)
    (hCounted : counted.IsOpen)
    (answer : Sent) :
    (c.call answer counted).2.IsOpen := by
  cases answer with
  | ok _ => exact hCounted
  | error _ => exact hOpen

theorem isOpen_sendHead
    (c : OpenConnection)
    (status : Nat)
    (headers : WireHeaders) :
    (Connection.sendHead status headers c.val).2.IsOpen :=
  isOpen_call c.property c.property _

theorem isOpen_write
    (c : OpenConnection)
    (chunk : ByteArray) :
    (Connection.write chunk c.val).2.IsOpen := by
  refine isOpen_call c.property ?_ _
  exact ⟨c.property.closeAfter_eq, c.property.headPlan_eq,
    c.property.writePlan_eq, c.property.flushPlan_eq⟩

theorem isOpen_flush
    (c : OpenConnection) :
    (Connection.flush c.val).2.IsOpen := by
  refine isOpen_call c.property ?_ _
  exact ⟨c.property.closeAfter_eq, c.property.headPlan_eq,
    c.property.writePlan_eq, c.property.flushPlan_eq⟩

instance : Connection OpenConnection where
  sendHead status headers c :=
    ((Connection.sendHead status headers c.val).1,
      ⟨_, isOpen_sendHead c status headers⟩)
  sendFull? := none
  write chunk c :=
    ((Connection.write chunk c.val).1,
      ⟨_, isOpen_write c chunk⟩)
  flush c :=
    ((Connection.flush c.val).1, ⟨_, isOpen_flush c⟩)
  isClosed c := ((Connection.isClosed c.val).1, c)

instance : Connection.NeverFails OpenConnection where
  sendHead_ok status headers c := by
    change (c.val.call
      (PlannedConnection.planned c.val.headPlan 0) _).1 = _
    rw [c.property.headPlan_eq]
    rfl
  sendFull_ok send hSend := by
    cases hSend
  write_ok chunk c := by
    change (c.val.call
      (if c.val.gone then .error .closed
        else PlannedConnection.planned c.val.writePlan _)
      _).1 = _
    rw [gone_eq_false, c.property.writePlan_eq]
    rfl
  flush_ok c := by
    change (c.val.call
      (PlannedConnection.planned c.val.flushPlan _) _).1 = _
    rw [c.property.flushPlan_eq]
    rfl
  isClosed_false := gone_eq_false

end OpenConnection

end Courier
