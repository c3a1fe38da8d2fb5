import Courier.Text.Basic
import Courier.Text.Numeral
import Courier.Text.Utf8

/-
  This file holds the byte coding of
  `application/x-www-form-urlencoded`: a space is a plus sign
  and every byte outside a small set is a percent sign and two
  hexadecimal digits.

  Key definitions include:
    * `Percent.isPlain`
    * `Percent.encodeBytes`
    * `Percent.encode`
    * `Percent.encodePairs`
    * `Percent.decodeBytes`
-/

namespace Courier.Percent

------------------------------------------------------------
-- Writing
------------------------------------------------------------

/- The bytes that stand for themselves. -/
def isPlain
    (b : UInt8) : Bool :=
  (48 ≤ b && b ≤ 57) || (65 ≤ b && b ≤ 90)
    || (97 ≤ b && b ≤ 122)
    || b = 42 || b = 45 || b = 46 || b = 95

/- The characters that one byte is written with. -/
def encodeByte
    (b : UInt8) : List Char :=
  if isPlain b then
    [Char.ofNat b.toNat]
  else if b = 32 then
    ['+']
  else
    ['%', Numeral.hexDigitUpper (b.toNat / 16),
      Numeral.hexDigitUpper b.toNat]

/- The characters that bytes are written with. -/
def encodeBytes
    (bytes : List UInt8) : List Char :=
  bytes.flatMap encodeByte

/- The written form of a text. -/
def encode
    (s : String) : List Char :=
  encodeBytes (Utf8.encode s.toList)

/- The written form of a list of names and values. -/
def encodePairs
    (pairs : List (String × String)) : List Char :=
  ['&'].intercalate
    (pairs.map fun (name, value) =>
      encode name ++ '=' :: encode value)

------------------------------------------------------------
-- Reading
------------------------------------------------------------

/-
  The bytes that a written form stands for. A percent sign
  without two hexadecimal digits stands for itself.
-/
def decodeBytes : List UInt8 → List UInt8
  | [] => []
  | 37 :: hi :: lo :: rest =>
      match Numeral.hexValue? hi, Numeral.hexValue? lo with
      | some h, some l => (h * 16 + l) :: decodeBytes rest
      | _, _ => 37 :: decodeBytes (hi :: lo :: rest)
  | b :: rest =>
      (if b = 43 then 32 else b) :: decodeBytes rest

/- The pieces between bytes of one value, in order. -/
def split
    (sep : UInt8)
    (bytes : List UInt8) : List (List UInt8) :=
  bytes.splitOn sep

/-
  The names and values of a form, pieces without content left
  out; a piece without an equals sign has an empty value.
-/
def readPairs
    (bytes : List UInt8) : List (List UInt8 × List UInt8) :=
  ((split 38 bytes).filter (!·.isEmpty)).map fun piece =>
    let (name, value) := Text.cutFirst 61 piece
    (decodeBytes name, decodeBytes (value.getD []))

end Courier.Percent
