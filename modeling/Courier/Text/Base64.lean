import Courier.Instances

/-
  This file reads bytes that are written in base 64: every
  character of the alphabet stands for six bits.

  Key definitions include:
    * `Base64.value?`
    * `Base64.decode`
-/

namespace Courier.Base64

/- The six bits that a character stands for. -/
def value?
    (c : Char) : Option Nat :=
  let n := c.toNat
  if c.isUpper then some (n - 65)
  else if c.isLower then some (n - 71)
  else if c.isDigit then some (n + 4)
  else if c = '+' then some 62
  else if c = '/' then some 63
  else none

/-
  Put the bits of the characters behind the bytes in `out`.
  Fewer than eight bits are held back; characters outside of the
  alphabet, such as line ends, are passed over.
-/
def decodeFrom
    (hold held : Nat)
    (out : ByteArray) : List Char → ByteArray
  | [] => out
  | c :: rest =>
      match value? c with
      | none => decodeFrom hold held out rest
      | some bits =>
          let hold := hold * 64 + bits
          let held := held + 6
          if 8 ≤ held then
            let left := held - 8
            decodeFrom (hold % 2 ^ left) left
              (out.push (UInt8.ofNat (hold / 2 ^ left))) rest
          else
            decodeFrom hold held out rest

/- The bytes that a text writes. -/
def decode
    (s : String) : ByteArray :=
  decodeFrom 0 0 .empty s.toList

end Courier.Base64
