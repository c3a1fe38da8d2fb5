import Courier.Range.Basic
import Courier.Text.Basic
import Courier.Text.Numeral

/-
  This file reads and writes the value of a `Range` header.
  Only a single range in bytes is understood.

  Key definitions include:
    * `RangeError`
    * `ByteRange.readBound`
    * `ByteRange.ofHeader`
    * `ByteRange.toHeader`
-/

namespace Courier

/- A `Range` header that is not understood. -/
inductive RangeError where
  | multipleRanges
  | invalidBound (part : String) (fault : Numeral.Fault)
deriving DecidableEq, Repr

/- The wording of a range error. -/
def RangeError.message : RangeError → String
  | multipleRanges => "multiple ranges are not supported"
  | invalidBound part fault =>
      "invalid range bound `" ++ part ++ "`: " ++ fault.message

namespace ByteRange

/- Bounds are below two to the power of sixty-four. -/
def boundLimit : Nat :=
  2 ^ 64

/- One bound: nothing, or a number. -/
def readBound
    (part : List Char) : Except RangeError (Option Nat) :=
  if part.isEmpty then
    .ok none
  else
    match Numeral.readNat boundLimit part with
    | .ok n => .ok (some n)
    | .error fault =>
        .error (.invalidBound (String.ofList part) fault)

/-
  Read a header value. No range is asked for when the header is
  absent or does not start with `bytes=`. What follows is cut at
  its first dash into the two bounds.
-/
def ofHeader
    (header : Option String) :
    Except RangeError (Option ByteRange) :=
  match header.bind (Text.afterStart? "bytes=") with
  | none => .ok none
  | some spec =>
      if ',' ∈ spec.toList then
        .error .multipleRanges
      else
        let (start, stop) := Text.cutFirst '-' spec.toList
        match readBound start with
        | .error e => .error e
        | .ok s =>
            match readBound (stop.getD []) with
            | .error e => .error e
            | .ok e => .ok (some ⟨s, e⟩)

/- The written form of a bound. -/
def writeBound : Option Nat → String
  | none => ""
  | some n => toString n

/- The header value that asks for a range. -/
def toHeader
    (r : ByteRange) : String :=
  "bytes=" ++ writeBound r.start ++ "-" ++ writeBound r.stop

end ByteRange

end Courier
