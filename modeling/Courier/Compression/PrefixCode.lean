import Courier.Compression.Bits

/-
  This file defines canonical codes, in which no code word
  begins another one. Shorter words come first, and words of one
  length are in the order of their symbols.

  Key definitions include:
    * `PrefixCode`
    * `PrefixCode.single`
    * `PrefixCode.ofPairs`
    * `PrefixCode.ofLengths`
    * `PrefixCode.isComplete`
    * `PrefixCode.read?`
-/

namespace Courier.Compression

/-
  A canonical code: how many symbols have each code length, and
  the symbols in the order of their codes.
-/
structure PrefixCode where
  counts : Array Nat
  symbols : Array Nat

namespace PrefixCode

/- The most bits that a code word has. -/
def maxLength : Nat := 15

/- The code of one symbol, which takes no bits. -/
def single
    (symbol : Nat) : PrefixCode :=
  ⟨#[1], #[symbol]⟩

/- The code of symbols, in order, with their code lengths. -/
def ofPairs
    (pairs : List (Nat × Nat)) : PrefixCode :=
  let ofLength n :=
    if n = 0 then []
    else (pairs.filter (·.2 = n)).map (·.1)
  let groups := (List.range (maxLength + 1)).map ofLength
  { counts := (groups.map List.length).toArray
    symbols := groups.flatten.toArray }

/-
  The code of the symbols with these code lengths, of which
  those with no length are not used.
-/
def ofLengths
    (lengths : Array Nat) : PrefixCode :=
  ofPairs
    ((lengths.toList.zipIdx.filter (·.1 ≠ 0)).map fun (n, s) =>
      (s, n))

/- True when every sequence of bits begins with a code word. -/
def isComplete
    (p : PrefixCode) : Bool :=
  let space :=
    p.counts.toList.zipIdx.foldl
      (fun used (count, n) =>
        used + count * 2 ^ (maxLength - n)) 0
  space = 2 ^ maxLength

/-
  Read a symbol: `code` are the bits read so far, `first` the
  first code of this length, `index` the symbols before it.
-/
def readFrom
    (p : PrefixCode)
    (fuel length code first index : Nat)
    (r : BitReader) : Option (Nat × BitReader) :=
  let count := p.counts.getD length 0
  if code < first + count then
    some (p.symbols.getD (index + (code - first)) 0, r)
  else
    match fuel with
    | 0 => none
    | fuel + 1 => do
        let (bit, r) ← r.bit?
        readFrom p fuel (length + 1) (2 * code + bit)
          (2 * (first + count)) (index + count) r

/- Read a symbol. -/
def read?
    (p : PrefixCode)
    (r : BitReader) : Option (Nat × BitReader) :=
  readFrom p maxLength 0 0 0 0 r

end PrefixCode

end Courier.Compression
