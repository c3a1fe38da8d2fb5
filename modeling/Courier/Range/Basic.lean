/-
  This file defines a single byte range and what it selects
  from content of a given length.

  Key definitions include:
    * `ByteRange`
    * `ByteRange.full`
    * `ByteRange.Selects`
    * `ByteRange.resolve`
-/

namespace Courier

/- A byte range, both bounds inclusive when present. -/
structure ByteRange where
  start : Option Nat
  stop : Option Nat
deriving DecidableEq, Repr

namespace ByteRange

/- The range from the first to the last of `len` bytes. -/
def full
    (len : Nat) : ByteRange where
  start := some 0
  stop := some (len - 1)

/- Position `i` of content of length `len` is in the range. -/
def Selects
    (r : ByteRange)
    (len i : Nat) : Prop :=
  i < len ∧
    (∀ s ∈ r.start, s ≤ i) ∧
    (∀ e ∈ r.stop, i ≤ e)

instance
    (r : ByteRange)
    (len i : Nat) :
    Decidable (r.Selects len i) := by
  unfold Selects
  infer_instance

/-
  The first and last selected position, with an absent start
  read as the first byte and the end cut to the last one. There
  is none when no byte is selected.
-/
def resolve
    (r : ByteRange)
    (len : Nat) : Option (Nat × Nat) :=
  if len = 0 then
    none
  else
    let last := len - 1
    let start := r.start.getD 0
    let stop := (r.stop.map (min · last)).getD last
    if start ≤ stop then some (start, stop) else none

end ByteRange

end Courier
