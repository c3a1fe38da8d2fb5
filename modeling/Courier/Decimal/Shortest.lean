import Courier.Decimal.Scaled

/-
  This file finds the shortest decimal that reads back as a
  given binary floating point number.

  Key definitions include:
    * `Decimal.Binary`
    * `Decimal.Binary.ofFloat`
    * `Decimal.scale`
    * `Decimal.Binary.onGrid?`
    * `Decimal.Binary.shortest`
-/

namespace Courier.Decimal

/-
  A positive number `mantissa * 2 ^ exponent`. The gap below it
  is half as wide when it is the least of its binade.
-/
structure Binary where
  mantissa : Nat
  exponent : Int
  narrowBelow : Bool
deriving DecidableEq, Repr

/- The number of a base, exact as a numerator and denominator. -/
def scale
    (base n : Nat)
    (exponent : Int) : Nat × Nat :=
  if 0 ≤ exponent then
    (n * base ^ exponent.toNat, 1)
  else
    (n, base ^ (-exponent).toNat)

/- How the positive part of a floating point number is made. -/
def Binary.ofFloat
    (x : Float) : Binary :=
  let bits := x.toBits.toNat % 2 ^ 63
  let field := bits / 2 ^ 52
  let fraction := bits % 2 ^ 52
  if field = 0 then
    ⟨fraction, -1074, false⟩
  else
    { mantissa := fraction + 2 ^ 52
      exponent := Int.ofNat field - 1075
      narrowBelow := fraction = 0 && 1 < field }

namespace Binary

/- Quarters of the last place: the number and its bounds. -/
def quarters
    (b : Binary) : Nat × Nat × Nat :=
  let mid := 4 * b.mantissa
  (mid - (if b.narrowBelow then 1 else 2), mid, mid + 2)

/- Compare a decimal with a count of quarters. -/
def compareTo
    (b : Binary)
    (d : Scaled)
    (count : Nat) : Ordering :=
  let (n, nd) := scale 10 d.digits d.exponent
  let (q, qd) := scale 2 count (b.exponent - 2)
  compare (n * qd) (q * nd)

/-
  True when a decimal reads back as the number: it lies between
  the bounds, or on one when the mantissa is even.
-/
def readsBack
    (b : Binary)
    (d : Scaled) : Bool :=
  let (low, _, high) := b.quarters
  let onBound := b.mantissa % 2 = 0
  (match b.compareTo d low with
    | .gt => true
    | .eq => onBound
    | .lt => false)
  && (match b.compareTo d high with
    | .lt => true
    | .eq => onBound
    | .gt => false)

/- How many times ten fits, with at most `fuel` steps. -/
def tens
    (fuel numerator denominator : Nat) : Nat :=
  match fuel with
  | 0 => 0
  | fuel + 1 =>
      if numerator < denominator then
        tens fuel (numerator * 10) denominator + 1
      else
        0

/- The exponent `e` with the number in `[10 ^ (e-1), 10 ^ e)`. -/
def magnitude
    (b : Binary) : Int :=
  let (n, d) := scale 2 b.mantissa b.exponent
  if d ≤ n then
    ((Nat.toDigits 10 (n / d)).length : Int)
  else
    1 - (tens 400 n d : Int)

/-
  The nearest decimal with `count` digits that reads back as
  the number. Of two equally near ones it is the even one.
-/
def onGrid?
    (b : Binary)
    (count : Nat) : Option Scaled :=
  let exponent := b.magnitude - count
  let (n, d) := scale 2 b.mantissa b.exponent
  let (t, u) := scale 10 1 exponent
  let below : Scaled := ⟨n * u / (d * t), exponent⟩
  let above : Scaled := ⟨below.digits + 1, exponent⟩
  let rest := n * u % (d * t)
  let nearBelow :=
    2 * rest < d * t
      || (2 * rest = d * t && below.digits % 2 = 0)
  let candidates :=
    if nearBelow then [below, above] else [above, below]
  candidates.find? b.readsBack

/- Remove trailing zeros, at most `fuel` of them. -/
def stripped
    (fuel : Nat)
    (d : Scaled) : Scaled :=
  match fuel with
  | 0 => d
  | fuel + 1 =>
      if d.digits ≠ 0 && d.digits % 10 = 0 then
        stripped fuel ⟨d.digits / 10, d.exponent + 1⟩
      else
        d

/- The shortest decimal that reads back as the number. -/
def shortest
    (b : Binary) : Scaled :=
  let grids := (List.range 17).map (· + 1)
  stripped 400 ((grids.findSome? b.onGrid?).getD ⟨0, 0⟩)

end Binary

end Courier.Decimal
