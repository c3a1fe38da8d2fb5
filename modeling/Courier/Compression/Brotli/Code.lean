import Courier.Compression.PrefixCode

/-
  This file reads the codes that a Brotli stream describes: a
  few symbols one by one, or the lengths of all code words.

  Key definitions include:
    * `Brotli.readSimple?`
    * `Brotli.readLengths?`
    * `Brotli.readCode?`
-/

namespace Courier.Compression.Brotli

------------------------------------------------------------
-- Few symbols
------------------------------------------------------------

/- The number of bits that a number takes. -/
def bitLength
    (n : Nat) : Nat :=
  if n = 0 then 0 else n.log2 + 1

/- Read symbols of `width` bits. -/
def readSymbols?
    (width count : Nat)
    (r : BitReader) : Option (List Nat × BitReader) :=
  match count with
  | 0 => some ([], r)
  | count + 1 => do
      let (symbol, r) ← r.take? width
      let (rest, r) ← readSymbols? width count r
      return (symbol :: rest, r)

/- The code of symbols with these code lengths. -/
def codeOf
    (symbols lengths : List Nat) : PrefixCode :=
  .ofPairs ((symbols.zip lengths).mergeSort fun a b =>
    a.1 ≤ b.1)

/-
  Read a code of up to four symbols. They are all different and
  below the limit; four of them come with a choice of lengths.
-/
def readSimple?
    (size limit : Nat)
    (r : BitReader) : Option (PrefixCode × BitReader) := do
  let (more, r) ← r.take? 2
  let (symbols, r) ←
    readSymbols? (bitLength (size - 1)) (more + 1) r
  if symbols.Nodup ∧ ∀ s ∈ symbols, s < limit then
    match symbols with
    | [a] => return (.single a, r)
    | [_, _] => return (codeOf symbols [1, 1], r)
    | [_, _, _] => return (codeOf symbols [1, 2, 2], r)
    | _ =>
        let (uneven, r) ← r.take? 1
        if uneven = 0 then
          return (codeOf symbols [2, 2, 2, 2], r)
        else
          return (codeOf symbols [1, 2, 3, 3], r)
  else
    none

------------------------------------------------------------
-- Code lengths
------------------------------------------------------------

/- The code of the lengths of the length code. -/
def lengthLengths : PrefixCode :=
  .ofLengths #[2, 4, 3, 2, 2, 4]

/- The order in which the lengths of the length code come. -/
def lengthOrder : List Nat :=
  [1, 2, 3, 4, 0, 5, 17, 6, 16, 7, 8, 9, 10, 11, 12, 13, 14, 15]

/-
  Read the lengths of the length code until it is complete.
  `space` is what is left of it, in parts of thirty-two.
-/
def readOuterLengths?
    (space : Nat)
    (found : List (Nat × Nat))
    (r : BitReader) :
    List Nat → Option (List (Nat × Nat) × Nat × BitReader)
  | [] => some (found, space, r)
  | symbol :: rest => do
      let (n, r) ← lengthLengths.read? r
      if n = 0 then
        readOuterLengths? space found r rest
      else
        let part := 32 / 2 ^ n
        let found := (symbol, n) :: found
        if space < part then none
        else if space = part then return (found, 0, r)
        else readOuterLengths? (space - part) found r rest

/- Read the length code. -/
def readLengthCode?
    (skipped : Nat)
    (r : BitReader) : Option (PrefixCode × BitReader) := do
  let (found, space, r) ←
    readOuterLengths? 32 [] r (lengthOrder.drop skipped)
  match found with
  | [(symbol, _)] => return (.single symbol, r)
  | _ =>
      if space = 0 then
        return (codeOf (found.map (·.1)) (found.map (·.2)), r)
      else
        none

/-
  What repeats code lengths: the last one that is not zero, and
  how often which length has been repeated so far.
-/
structure Repetition where
  last : Nat := 8
  length : Nat := 0
  count : Nat := 0

/- The whole of a code, in parts of its longest word. -/
def wholeSpace : Nat :=
  2 ^ PrefixCode.maxLength

/- The share that code words of a length have, zero for none. -/
def share
    (length : Nat) : Nat :=
  if length = 0 then 0
  else 2 ^ (PrefixCode.maxLength - length)

/-
  Read code lengths until the code is complete. `space` is what
  is left of it. A repetition right behind another one of the
  same length multiplies it.
-/
def readLengths?
    (code : PrefixCode)
    (limit fuel space : Nat)
    (repeated : Repetition)
    (r : BitReader)
    (lengths : Array Nat) : Option (Array Nat × BitReader) :=
  match fuel with
  | 0 => none
  | fuel + 1 =>
      if space = 0 then
        some (lengths, r)
      else if limit ≤ lengths.size then
        none
      else do
        let (symbol, r) ← code.read? r
        if symbol < 16 then
          if space < share symbol then
            none
          else
            readLengths? code limit fuel (space - share symbol)
              { repeated with
                last := if symbol = 0 then repeated.last
                  else symbol
                count := 0 }
              r (lengths.push symbol)
        else
          let length := if symbol = 16 then repeated.last else 0
          let extra := if symbol = 16 then 2 else 3
          let (more, r) ← r.take? extra
          let before :=
            if repeated.length = length then repeated.count
            else 0
          let count := (before - 2) * 2 ^ extra + more + 3
          let added := count - before
          if limit < lengths.size + added
              || space < added * share length then
            none
          else
            readLengths? code limit fuel
              (space - added * share length)
              { repeated with length, count }
              r (lengths ++ Array.replicate added length)

/-
  Read a code of `size` symbols, of which those below a limit
  may be used.
-/
def readCode?
    (size limit : Nat)
    (r : BitReader) : Option (PrefixCode × BitReader) := do
  let (kind, r) ← r.take? 2
  if kind = 1 then
    readSimple? size limit r
  else
    let (code, r) ← readLengthCode? kind r
    let (lengths, r) ←
      readLengths? code limit (limit + 1) wholeSpace {} r #[]
    return (.ofLengths lengths, r)

/- Read a number of codes. -/
def readCodes?
    (size limit count : Nat)
    (codes : Array PrefixCode)
    (r : BitReader) : Option (Array PrefixCode × BitReader) :=
  match count with
  | 0 => some (codes, r)
  | count + 1 => do
      let (code, r) ← readCode? size limit r
      readCodes? size limit count (codes.push code) r

end Courier.Compression.Brotli
