import Courier.Error

/-
  This file defines the body that a client receives: one chunk,
  or a stream of chunks, with what is known about its size.

  Key definitions include:
    * `SizeHint`
    * `Body`
    * `Body.once`
    * `Body.poll`
    * `Body.hint`
-/

namespace Courier

/- What is known about the bytes that are still to come. -/
structure SizeHint where
  lower : Nat
  upper : Option Nat
  ended : Bool
deriving DecidableEq, Repr

namespace SizeHint

/- A size that is known. -/
def known
    (size : Nat)
    (ended : Bool) : SizeHint :=
  ⟨size, some size, ended⟩

/- A size that nothing is known about. -/
def unknown : SizeHint :=
  ⟨0, none, false⟩

/- The size, when its bounds meet. -/
def size?
    (h : SizeHint) : Option Nat :=
  if h.upper = some h.lower then some h.lower else none

end SizeHint

/- One frame of a body: a chunk, or a failure. -/
abbrev Frame :=
  Except SendError ByteArray

/- A body: at most one chunk, or a stream of frames. -/
inductive Body where
  | chunk (bytes : Option ByteArray)
  | stream (frames : List Frame)

namespace Body

/- The body without bytes. -/
def empty : Body :=
  chunk none

/- The body of one chunk; without bytes it is empty. -/
def once
    (bytes : ByteArray) : Body :=
  if bytes.isEmpty then empty else chunk (some bytes)

/- Take the next frame, when there is one. -/
def poll : Body → Option Frame × Body
  | chunk bytes => (bytes.map .ok, chunk none)
  | stream [] => (none, stream [])
  | stream (frame :: rest) => (some frame, stream rest)

/- What is known about the size of a body. -/
def hint : Body → SizeHint
  | chunk none => .known 0 true
  | chunk (some bytes) => .known bytes.size false
  | stream _ => .unknown

/- How a body is shown. -/
def describe : Body → String
  | chunk none => "ResponseBody::Once(None)"
  | chunk (some bytes) =>
      "ResponseBody::Once(Some(" ++ toString bytes.size ++ "))"
  | stream _ => "ResponseBody::Stream"

end Body

end Courier
