import Courier.Instances

/-
  This file reads and writes numerals: decimal numbers below
  a bound, with the reason why a text is not one, and
  hexadecimal digits.

  Key definitions include:
    * `Numeral.Fault`
    * `Numeral.readDigits`
    * `Numeral.readNat`
    * `Numeral.readInt`
    * `Numeral.hex`
    * `Numeral.hexPadded`
    * `Numeral.hexValue?`
-/

namespace Courier.Numeral

------------------------------------------------------------
-- Reading decimal numbers
------------------------------------------------------------

/- Why a text is no decimal number below the bound. -/
inductive Fault where
  | empty
  | badDigit
  | tooLarge
deriving DecidableEq, Repr

namespace Fault

/- The wording of a fault. -/
def message : Fault → String
  | empty => "cannot parse integer from empty string"
  | badDigit => "invalid digit found in string"
  | tooLarge => "number too large to fit in target type"

end Fault

/- The value of an ASCII decimal digit. -/
def digit?
    (c : Char) : Option Nat :=
  if c.isDigit then some (c.toNat - '0'.toNat) else none

/-
  Read digits from left to right onto a value. The first
  character that is no digit, or that takes the value to the
  bound, decides the fault.
-/
def readDigits
    (bound value : Nat) : List Char → Except Fault Nat
  | [] => .ok value
  | c :: rest =>
      match digit? c with
      | none => .error .badDigit
      | some d =>
          if value * 10 + d < bound then
            readDigits bound (value * 10 + d) rest
          else
            .error .tooLarge

/-
  A natural number below the bound: an optional plus sign and
  at least one digit.
-/
def readNat
    (bound : Nat) : List Char → Except Fault Nat
  | [] => .error .empty
  | ['+'] => .error .badDigit
  | '+' :: rest => readDigits bound 0 rest
  | cs => readDigits bound 0 cs

/-
  An integer of two's complement width `bits`: an optional
  sign and at least one digit.
-/
def readInt
    (bits : Nat) : List Char → Except Fault Int
  | ['-'] => .error .badDigit
  | '-' :: rest =>
      (readDigits (2 ^ (bits - 1) + 1) 0 rest).map
        fun n => - (n : Int)
  | cs => (readNat (2 ^ (bits - 1)) cs).map Int.ofNat

------------------------------------------------------------
-- Hexadecimal
------------------------------------------------------------

/- The lower case digit of a value below sixteen. -/
def hexDigit
    (n : Nat) : Char :=
  Nat.digitChar (n % 16)

/- The upper case digit of a value below sixteen. -/
def hexDigitUpper
    (n : Nat) : Char :=
  (hexDigit n).toUpper

/- Lower case hexadecimal without leading zeros. -/
def hex
    (n : Nat) : String :=
  String.ofList (Nat.toDigits 16 n)

/- Lower case hexadecimal with at least `width` digits. -/
def hexPadded
    (width n : Nat) : String :=
  let digits := Nat.toDigits 16 n
  String.ofList
    (List.replicate (width - digits.length) '0' ++ digits)

/- The value of a hexadecimal digit of either case. -/
def hexValue?
    (b : UInt8) : Option UInt8 :=
  if 48 ≤ b && b ≤ 57 then some (b - 48)
  else if 97 ≤ b && b ≤ 102 then some (b - 87)
  else if 65 ≤ b && b ≤ 70 then some (b - 55)
  else none

end Courier.Numeral
