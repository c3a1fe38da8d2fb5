import Courier.Compression.Brotli.Code

/-
  This file says which code a symbol of a Brotli stream is coded
  with: a context is taken from what comes before the symbol,
  and a map leads from contexts to codes.

  Key definitions include:
    * `Brotli.literalContext`
    * `Brotli.copyContext`
    * `Brotli.inverseMoves`
    * `Brotli.readMap?`
-/

namespace Courier.Compression.Brotli

------------------------------------------------------------
-- Contexts
------------------------------------------------------------

/- The classes of ASCII in a text, for the byte right before. -/
def asciiClasses : Array Nat :=
  #[ 0, 0, 0, 0, 0, 0, 0, 0, 0, 4, 4, 0, 0, 4, 0, 0,
    0, 0, 0, 0, 0, 0, 0, 0, 0, 0, 0, 0, 0, 0, 0, 0,
    8, 12, 16, 12, 12, 20, 12, 16, 24, 28, 12, 12, 32, 12, 36, 12,
    44, 44, 44, 44, 44, 44, 44, 44, 44, 44, 32, 32, 24, 40, 28, 12,
    12, 48, 52, 52, 52, 48, 52, 52, 52, 48, 52, 52, 52, 52, 52, 48,
    52, 52, 52, 52, 52, 48, 52, 52, 52, 52, 52, 24, 12, 28, 12, 12,
    12, 56, 60, 60, 60, 56, 60, 60, 60, 56, 60, 60, 60, 60, 60, 56,
    60, 60, 60, 60, 60, 56, 60, 60, 60, 60, 60, 24, 12, 28, 12, 0 ]

/- The class of the byte right before, in a text. -/
def textClass
    (b : Nat) : Nat :=
  if b < 128 then asciiClasses.getD b 0
  else if b < 192 then b % 2
  else 2 + b % 2

/- The class of the byte before that one, in a text. -/
def outerTextClass
    (b : Nat) : Nat :=
  if b ≤ 32 || b = 127 then 0
  else if 128 ≤ b then (if b < 224 then 0 else 2)
  else if 97 ≤ b && b ≤ 122 then 3
  else if (65 ≤ b && b ≤ 90) || (48 ≤ b && b ≤ 57) then 2
  else 1

/- The class of a byte that stands for a signed number. -/
def signedClass
    (b : Nat) : Nat :=
  if b = 0 then 0
  else if b < 16 then 1
  else if b < 64 then 2
  else if b < 128 then 3
  else if b < 192 then 4
  else if b < 240 then 5
  else if b < 255 then 6
  else 7

/-
  The context of a literal in a mode, from the byte right before
  and the one before that.
-/
def literalContext
    (mode last outer : Nat) : Nat :=
  match mode with
  | 0 => last % 64
  | 1 => last / 4
  | 2 => textClass last ||| outerTextClass outer
  | _ => signedClass last * 8 + signedClass outer

/- How many contexts literals have. -/
def literalContexts : Nat := 64

/- The context of a distance, from the length of the copy. -/
def copyContext
    (length : Nat) : Nat :=
  min (length - 2) 3

/- How many contexts distances have. -/
def copyContexts : Nat := 4

------------------------------------------------------------
-- Maps
------------------------------------------------------------

/- Read a number below 255, the smaller ones with fewer bits. -/
def readSmall?
    (r : BitReader) : Option (Nat × BitReader) := do
  let (positive, r) ← r.take? 1
  if positive = 0 then
    return (0, r)
  else
    let (width, r) ← r.take? 3
    let (low, r) ← r.take? width
    return (2 ^ width + low, r)

/-
  Undo the move to the front: each number is the place of a
  value in a list whose front the value then moves to.
-/
def inverseMoves
    (values : List Nat) : List Nat → List Nat
  | [] => []
  | place :: rest =>
      let value := values.getD place 0
      value :: inverseMoves (value :: values.eraseIdx place) rest

/-
  Read the entries of a map. The lowest symbols stand for runs
  of zeros.
-/
def readEntries?
    (code : PrefixCode)
    (size maxRun fuel : Nat)
    (r : BitReader)
    (entries : Array Nat) : Option (Array Nat × BitReader) :=
  match fuel with
  | 0 => none
  | fuel + 1 =>
      if size ≤ entries.size then
        if entries.size = size then some (entries, r) else none
      else do
        let (symbol, r) ← code.read? r
        if symbol = 0 then
          readEntries? code size maxRun fuel r (entries.push 0)
        else if symbol ≤ maxRun then
          let (more, r) ← r.take? symbol
          readEntries? code size maxRun fuel r
            (entries ++ Array.replicate (2 ^ symbol + more) 0)
        else
          readEntries? code size maxRun fuel r
            (entries.push (symbol - maxRun))

/- Read a map of a size; with how many codes it leads to. -/
def readMap?
    (size : Nat)
    (r : BitReader) : Option (Nat × Array Nat × BitReader) := do
  let (more, r) ← readSmall? r
  let codes := more + 1
  if codes = 1 then
    return (codes, Array.replicate size 0, r)
  else
    let (hasRuns, r) ← r.take? 1
    let (runs, r) ← r.take? (4 * hasRuns)
    let maxRun := hasRuns * (runs + 1)
    let (code, r) ← readCode? (codes + maxRun) (codes + maxRun) r
    let (entries, r) ←
      readEntries? code size maxRun (size + 1) r #[]
    let (moved, r) ← r.take? 1
    if moved = 1 then
      let values :=
        inverseMoves (List.range 256) entries.toList
      return (codes, values.toArray, r)
    else
      return (codes, entries, r)

end Courier.Compression.Brotli
