/-
  This file reads bytes as text. Bytes from a form may be any
  bytes; a broken sequence becomes one replacement character
  for each of its longest well-formed beginnings.

  Key definitions include:
    * `Utf8.step`
    * `Utf8.decodeLossy`
    * `Utf8.decode?`
    * `Utf8.encode`
-/

namespace Courier.Utf8

/- The character that stands for bytes that are no text. -/
def replacement : Char :=
  '\uFFFD'

/- A continuation byte within the bounds its place allows. -/
def continues
    (lo hi b : UInt8) : Bool :=
  lo ≤ b && b ≤ hi

/- The six bits that a continuation byte carries. -/
def payload
    (b : UInt8) : Nat :=
  b.toNat % 64

/-
  The bounds of the second byte after a lead byte: they rule
  out overlong forms, surrogates and code points that are too
  large.
-/
def secondBounds
    (lead : UInt8) : UInt8 × UInt8 :=
  if lead = 0xE0 then (0xA0, 0xBF)
  else if lead = 0xED then (0x80, 0x9F)
  else if lead = 0xF0 then (0x90, 0xBF)
  else if lead = 0xF4 then (0x80, 0x8F)
  else (0x80, 0xBF)

/- The length of the sequence that a lead byte announces. -/
def sequenceLength
    (lead : UInt8) : Nat :=
  if lead < 0x80 then 1
  else if 0xC2 ≤ lead && lead ≤ 0xDF then 2
  else if 0xE0 ≤ lead && lead ≤ 0xEF then 3
  else if 0xF0 ≤ lead && lead ≤ 0xF4 then 4
  else 0

/-
  The first character of the bytes, none when they begin with
  a broken sequence, and the number of bytes taken beyond the
  lead byte.
-/
def step
    (lead : UInt8)
    (rest : List UInt8) : Option Char × Nat :=
  match sequenceLength lead with
  | 1 => (some (Char.ofNat lead.toNat), 0)
  | 2 =>
      match rest with
      | b :: _ =>
          if continues 0x80 0xBF b then
            (some (Char.ofNat
              (lead.toNat % 32 * 64 + payload b)), 1)
          else (none, 0)
      | [] => (none, 0)
  | 3 =>
      let (lo, hi) := secondBounds lead
      match rest with
      | b :: c :: _ =>
          if !continues lo hi b then (none, 0)
          else if !continues 0x80 0xBF c then (none, 1)
          else
            (some (Char.ofNat
              ((lead.toNat % 16 * 64 + payload b) * 64
                + payload c)), 2)
      | [b] => (none, if continues lo hi b then 1 else 0)
      | [] => (none, 0)
  | 4 =>
      let (lo, hi) := secondBounds lead
      match rest with
      | b :: c :: d :: _ =>
          if !continues lo hi b then (none, 0)
          else if !continues 0x80 0xBF c then (none, 1)
          else if !continues 0x80 0xBF d then (none, 2)
          else
            (some (Char.ofNat
              (((lead.toNat % 8 * 64 + payload b) * 64
                + payload c) * 64 + payload d)), 3)
      | [b, c] =>
          if !continues lo hi b then (none, 0)
          else (none, if continues 0x80 0xBF c then 2 else 1)
      | [b] => (none, if continues lo hi b then 1 else 0)
      | [] => (none, 0)
  | _ => (none, 0)

/- All characters of the bytes, broken sequences replaced. -/
def decodeLossy
    (bytes : List UInt8) : List Char :=
  match bytes with
  | [] => []
  | lead :: rest =>
      let (char, taken) := step lead rest
      char.getD replacement :: decodeLossy (rest.drop taken)
termination_by bytes.length
decreasing_by
  simp only [List.length_drop, List.length_cons]
  omega

/- The text of the bytes, none when they are not UTF-8. -/
def decode?
    (bytes : List UInt8) : Option String :=
  String.fromUTF8? bytes.toByteArray

/- The bytes of a text. -/
def encode
    (cs : List Char) : List UInt8 :=
  cs.flatMap String.utf8EncodeChar

end Courier.Utf8
