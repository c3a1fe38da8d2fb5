import Courier.Decimal.Scaled
import Courier.Text.Numeral
import Courier.Text.Utf8

/-
  This file cuts the bytes of a JSON document into tokens.

  A document may hold parts that nobody asks for. So a text that
  is no Unicode text is a token as well, only without a value.

  Key definitions include:
    * `JsonLeaf`
    * `JsonToken`
    * `JsonToken.cutText`
    * `JsonToken.text?`
    * `JsonToken.number?`
    * `JsonToken.ofBytes`
-/

namespace Courier

/-
  A value that has no parts. A number that was not written as a
  whole one keeps its sign and its digits.
-/
inductive JsonLeaf where
  | null
  | bool (value : Bool)
  | whole (value : Int)
  | real (isNegative : Bool) (magnitude : Decimal.Scaled)
  | text (content : Option String)
deriving DecidableEq, Repr

/- One token of a document. -/
inductive JsonToken where
  | openArr
  | closeArr
  | openObj
  | closeObj
  | comma
  | colon
  | leaf (value : JsonLeaf)
deriving DecidableEq, Repr

namespace JsonToken

------------------------------------------------------------
-- Texts
------------------------------------------------------------

/-
  The bytes of a text up to the quote that ends it, and what
  follows the quote. `acc` holds the bytes so far, backwards; a
  control character ends everything.
-/
def cutText
    (acc : List UInt8) :
    List UInt8 → Option (List UInt8 × List UInt8)
  | [] => none
  | [b] => if b = 34 then some (acc.reverse, []) else none
  | b :: c :: rest =>
      if b = 34 then some (acc.reverse, c :: rest)
      else if b = 92 then cutText (c :: b :: acc) rest
      else if b < 32 then none
      else cutText (b :: acc) (c :: rest)

/- What follows a text is shorter than what it stood in. -/
theorem length_of_cutText
    {acc bytes content rest : List UInt8}
    (h : cutText acc bytes = some (content, rest)) :
    rest.length < bytes.length := by
  fun_induction cutText acc bytes <;> grind

/-
  A part of a text: a byte, or a sixteen bit unit that has been
  written with its number.
-/
inductive Piece where
  | byte (value : UInt8)
  | unit (value : Nat)
deriving DecidableEq, Repr

/- The byte that a letter behind a backslash stands for. -/
def escaped?
    (letter : UInt8) : Option UInt8 :=
  [(34, 34), (92, 92), (47, 47), (98, 8), (102, 12), (110, 10),
    (114, 13), (116, 9)].lookup letter

/- The number that four hexadecimal digits write. -/
def hexUnit?
    (a b c d : UInt8) : Option Nat :=
  match Numeral.hexValue? a, Numeral.hexValue? b,
    Numeral.hexValue? c, Numeral.hexValue? d with
  | some a, some b, some c, some d =>
      some (((a.toNat * 16 + b.toNat) * 16 + c.toNat) * 16
        + d.toNat)
  | _, _, _, _ => none

/- The parts of a text, none when an escape is malformed. -/
def pieces?
    (acc : List Piece) : List UInt8 → Option (List Piece)
  | [] => some acc.reverse
  | 92 :: 117 :: a :: b :: c :: d :: rest =>
      match hexUnit? a b c d with
      | some unit => pieces? (.unit unit :: acc) rest
      | none => none
  | 92 :: letter :: rest =>
      match escaped? letter with
      | some b => pieces? (.byte b :: acc) rest
      | none => none
  | b :: rest => pieces? (.byte b :: acc) rest

/- True for the first unit of a pair. -/
def isHighUnit
    (unit : Nat) : Bool :=
  0xD800 ≤ unit && unit < 0xDC00

/- True for the second unit of a pair. -/
def isLowUnit
    (unit : Nat) : Bool :=
  0xDC00 ≤ unit && unit < 0xE000

/- The character of a pair of units. -/
def ofPair
    (high low : Nat) : Char :=
  Char.ofNat (0x10000 + (high - 0xD800) * 0x400 + (low - 0xDC00))

/-
  The bytes of a text, written backwards before those in `acc`,
  none when a unit of a pair stands alone.
-/
def joinUnits?
    (acc : List UInt8) : List Piece → Option (List UInt8)
  | [] => some acc.reverse
  | .byte b :: rest => joinUnits? (b :: acc) rest
  | .unit high :: .unit low :: rest =>
      if isHighUnit high then
        if isLowUnit low then
          joinUnits?
            ((Utf8.encode [ofPair high low]).reverse ++ acc) rest
        else
          none
      else if isLowUnit high then
        none
      else
        joinUnits?
          ((Utf8.encode [Char.ofNat high]).reverse ++ acc)
          (.unit low :: rest)
  | .unit unit :: rest =>
      if isHighUnit unit || isLowUnit unit then
        none
      else
        joinUnits?
          ((Utf8.encode [Char.ofNat unit]).reverse ++ acc) rest

/-
  The text that its bytes between the quotes stand for. Fails
  on a malformed escape; a text that is no Unicode text has no
  content.
-/
def text?
    (bytes : List UInt8) : Option JsonLeaf :=
  (pieces? [] bytes).map fun pieces =>
    .text ((joinUnits? [] pieces).bind Utf8.decode?)

------------------------------------------------------------
-- Words and numbers
------------------------------------------------------------

/- The bytes that words and numbers are made of. -/
def isWordByte
    (b : UInt8) : Bool :=
  (48 ≤ b && b ≤ 57) || (97 ≤ b && b ≤ 122) || b = 69
    || b = 43 || b = 45 || b = 46

/- The value of digits. -/
def digitsValue
    (cs : List Char) : Nat :=
  cs.foldl (fun n c => n * 10 + (c.toNat - '0'.toNat)) 0

/- One or more digits, and what follows them. -/
def cutDigits?
    (cs : List Char) : Option (List Char × List Char) :=
  let digits := cs.takeWhile Char.isDigit
  if digits.isEmpty then none
  else some (digits, cs.drop digits.length)

/- The digits behind the point, if there is one. -/
def cutFraction? : List Char → Option (List Char × List Char)
  | '.' :: cs => cutDigits? cs
  | cs => some ([], cs)

/- The number that nothing but digits write. -/
def wholeDigits?
    (cs : List Char) : Option Nat :=
  match cutDigits? cs with
  | some (digits, []) => some (digitsValue digits)
  | _ => none

/- The exponent that a number ends with, zero without one. -/
def exponent? : List Char → Option Int
  | [] => some 0
  | c :: cs =>
      if c = 'e' || c = 'E' then
        match cs with
        | '+' :: digits => (wholeDigits? digits).map fun n => n
        | '-' :: digits => (wholeDigits? digits).map fun n => -n
        | digits => (wholeDigits? digits).map fun n => n
      else
        none

/-
  The number that a word is: digits without a leading zero, a
  fraction and an exponent. It is whole when it has neither of
  the last two and is not a negative zero.
-/
def number?
    (word : List Char) : Option JsonLeaf :=
  let negative := word.head? = some '-'
  let cs := if negative then word.drop 1 else word
  match cutDigits? cs with
  | none => none
  | some (digits, rest) =>
      if digits.head? = some '0' && digits.length ≠ 1 then
        none
      else if rest.isEmpty then
        let n : Int := digitsValue digits
        some
          (if negative then
            if n = 0 then .real true ⟨0, 0⟩ else .whole (-n)
          else
            .whole n)
      else
        match cutFraction? rest with
        | none => none
        | some (places, rest) =>
            (exponent? rest).map fun e =>
              .real negative
                ⟨digitsValue (digits ++ places),
                  e - places.length⟩

/- The value that a word stands for. -/
def word?
    (word : List UInt8) : Option JsonLeaf :=
  let cs := word.map fun b => Char.ofNat b.toNat
  if cs = "null".toList then some .null
  else if cs = "true".toList then some (.bool true)
  else if cs = "false".toList then some (.bool false)
  else number? cs

------------------------------------------------------------
-- Documents
------------------------------------------------------------

/- The bytes that may stand between tokens. -/
def isBlank
    (b : UInt8) : Bool :=
  b = 32 || b = 9 || b = 10 || b = 13

/- The tokens that are one byte. -/
def mark?
    (b : UInt8) : Option JsonToken :=
  [(91, openArr), (93, closeArr), (123, openObj),
    (125, closeObj), (44, comma), (58, colon)].lookup b

/-
  The tokens of the bytes, behind those in `acc`, which stand
  backwards.
-/
def scan
    (acc : List JsonToken)
    (bytes : List UInt8) : Option (List JsonToken) :=
  match bytes with
  | [] => some acc.reverse
  | b :: rest =>
      if isBlank b then
        scan acc rest
      else if b = 34 then
        match _h : cutText [] rest with
        | none => none
        | some (content, after) =>
            match text? content with
            | none => none
            | some found => scan (.leaf found :: acc) after
      else
        match mark? b with
        | some mark => scan (mark :: acc) rest
        | none =>
            match word? ((b :: rest).takeWhile isWordByte) with
            | none => none
            | some found =>
                scan (.leaf found :: acc)
                  (rest.dropWhile isWordByte)
termination_by bytes.length
decreasing_by
  · simp
  · have := length_of_cutText _h
    simp only [List.length_cons]
    omega
  · simp
  · have := (List.dropWhile_sublist isWordByte (l := rest)).length_le
    simp only [List.length_cons]
    omega

/- The tokens of a document. -/
def ofBytes
    (bytes : List UInt8) : Option (List JsonToken) :=
  scan [] bytes

end JsonToken

end Courier
