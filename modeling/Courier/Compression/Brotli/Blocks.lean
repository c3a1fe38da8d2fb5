import Courier.Compression.Brotli.Context
import Courier.Compression.Brotli.Tables

/-
  This file follows the blocks of a Brotli stream. The symbols of
  one sort form a sequence of blocks, each with its type and the
  number of its symbols.

  Key definitions include:
    * `Brotli.BlockSequence`
    * `Brotli.BlockSequence.read?`
    * `Brotli.BlockSequence.advance?`
-/

namespace Courier.Compression.Brotli

/-
  Where in a sequence of blocks the stream is: the type of the
  block, the type of the one before it, and how many symbols it
  has left.
-/
structure BlockSequence where
  types : Nat
  typeCode : PrefixCode
  countCode : PrefixCode
  type : Nat := 0
  typeBefore : Nat := 1
  left : Nat

namespace BlockSequence

/- The size of the code of symbol counts. -/
def countSymbols : Nat := 26

/- The number of symbols that no meta-block goes beyond. -/
def unlimited : Nat :=
  2 ^ 24

/- Read how many symbols a block has. -/
def readCount?
    (code : PrefixCode)
    (r : BitReader) : Option (Nat × BitReader) := do
  let (symbol, r) ← code.read? r
  readExtended? countTable symbol r

/- Read how the blocks of a sequence are coded. -/
def read?
    (r : BitReader) : Option (BlockSequence × BitReader) := do
  let (more, r) ← readSmall? r
  let types := more + 1
  if types = 1 then
    return (
      { types
        typeCode := ⟨#[], #[]⟩
        countCode := ⟨#[], #[]⟩
        left := unlimited }, r)
  else
    let (typeCode, r) ← readCode? (types + 2) (types + 2) r
    let (countCode, r) ← readCode? countSymbols countSymbols r
    let (left, r) ← readCount? countCode r
    return ({ types, typeCode, countCode, left }, r)

/-
  The type that a symbol stands for: the one before, the one
  that comes next, or any.
-/
def typeOf
    (b : BlockSequence)
    (symbol : Nat) : Nat :=
  let type :=
    match symbol with
    | 0 => b.typeBefore
    | 1 => b.type + 1
    | n + 2 => n
  if b.types ≤ type then type - b.types else type

/- Go past one symbol, into a new block where one begins. -/
def advance?
    (b : BlockSequence)
    (r : BitReader) : Option (BlockSequence × BitReader) :=
  match b.left with
  | left + 1 => some ({ b with left }, r)
  | 0 => do
      let (symbol, r) ← b.typeCode.read? r
      let (count, r) ← readCount? b.countCode r
      return (
        { b with
          type := b.typeOf symbol
          typeBefore := b.type
          left := count - 1 }, r)

end BlockSequence

end Courier.Compression.Brotli
