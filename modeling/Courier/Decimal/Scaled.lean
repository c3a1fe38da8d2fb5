import Courier.Instances

/-
  This file defines decimal numbers and their floating point
  values. A value is made from the leading digits by one scaling
  with a power of ten, two for very small numbers.

  Key definitions include:
    * `Decimal.Scaled`
    * `Decimal.Scaled.leading`
    * `Decimal.scaleFloat?`
    * `Decimal.Scaled.toFloat?`
-/

namespace Courier.Decimal

/- A decimal number `digits * 10 ^ exponent`. -/
structure Scaled where
  digits : Nat
  exponent : Int
deriving DecidableEq, Repr

/-
  The number with its leading digits only, as many as make a
  whole number of sixty-four bits.
-/
def Scaled.leading
    (d : Scaled) : Scaled :=
  let extra := (Nat.toDigits 10 d.digits).length - 20
  let kept := d.digits / 10 ^ extra
  if kept < 2 ^ 64 then
    ⟨kept, d.exponent + extra⟩
  else
    ⟨kept / 10, d.exponent + extra + 1⟩

/- The greatest power of ten that a float can be. -/
def maxPower : Nat := 308

/- A power of ten as a float. -/
def power
    (n : Nat) : Float :=
  Float.ofScientific 1 false n

/-
  A float times a power of ten, none when that is too large. A
  float that has been divided twice by the greatest power is
  zero.
-/
def scaleFloat?
    (divisions : Nat)
    (x : Float)
    (exponent : Int) : Option Float :=
  if 0 ≤ exponent then
    if x == 0 then
      some x
    else if (maxPower : Int) < exponent then
      none
    else
      let y := x * power exponent.toNat
      if y.isInf then none else some y
  else if -(maxPower : Int) ≤ exponent then
    some (x / power (-exponent).toNat)
  else
    match divisions with
    | 0 => some 0
    | divisions + 1 =>
        scaleFloat? divisions (x / power maxPower)
          (exponent + maxPower)

/- The floating point value of a number, none when too large. -/
def Scaled.toFloat?
    (d : Scaled) : Option Float :=
  let kept := d.leading
  scaleFloat? 2 (Float.ofScientific kept.digits false 0)
    kept.exponent

end Courier.Decimal
