import Courier.Compression.Bits

/-
  This file holds the tables of Brotli: for each code of a
  length, a count or a distance the least value and how many
  extra bits are added to it.

  Key definitions include:
    * `Brotli.insertTable`
    * `Brotli.copyTable`
    * `Brotli.countTable`
    * `Brotli.readExtended?`
    * `Brotli.commandCodes`
    * `Brotli.DistanceShape`
    * `Brotli.DistanceShape.read?`
-/

namespace Courier.Compression.Brotli

------------------------------------------------------------
-- Lengths and counts
------------------------------------------------------------

/- The number of new bytes of each code. -/
def insertTable : Array (Nat × Nat) :=
  #[ (0, 0), (1, 0), (2, 0), (3, 0), (4, 0), (5, 0), (6, 1),
    (8, 1), (10, 2), (14, 2), (18, 3), (26, 3), (34, 4),
    (50, 4), (66, 5), (98, 5), (130, 6), (194, 7), (322, 8),
    (578, 9), (1090, 10), (2114, 12), (6210, 14), (22594, 24) ]

/- The number of copied bytes of each code. -/
def copyTable : Array (Nat × Nat) :=
  #[ (2, 0), (3, 0), (4, 0), (5, 0), (6, 0), (7, 0), (8, 0),
    (9, 0), (10, 1), (12, 1), (14, 2), (18, 2), (22, 3),
    (30, 3), (38, 4), (54, 4), (70, 5), (102, 5), (134, 6),
    (198, 7), (326, 8), (582, 9), (1094, 10), (2118, 24) ]

/- The number of symbols of a block of each code. -/
def countTable : Array (Nat × Nat) :=
  #[ (1, 2), (5, 2), (9, 2), (13, 2), (17, 3), (25, 3), (33, 3),
    (41, 3), (49, 4), (65, 4), (81, 4), (97, 4), (113, 5),
    (145, 5), (177, 5), (209, 5), (241, 6), (305, 6), (369, 7),
    (497, 8), (753, 9), (1265, 10), (2289, 11), (4337, 12),
    (8433, 13), (16625, 24) ]

/- Read the extra bits of a code and add them to its value. -/
def readExtended?
    (table : Array (Nat × Nat))
    (code : Nat)
    (r : BitReader) : Option (Nat × BitReader) := do
  let (least, extra) ← table[code]?
  let (more, r) ← r.take? extra
  return (least + more, r)

------------------------------------------------------------
-- Commands
------------------------------------------------------------

/- How many symbols there are for commands. -/
def commandCount : Nat := 704

/-
  The first codes of the new and the copied bytes for each row
  of command symbols.
-/
def commandRows : Array (Nat × Nat) :=
  #[ (0, 0), (0, 8), (0, 0), (0, 8), (8, 0), (8, 8), (0, 16),
    (16, 0), (8, 16), (16, 8), (16, 16) ]

/- The codes of the new and the copied bytes of a command. -/
def commandCodes
    (symbol : Nat) : Nat × Nat :=
  let (new, copied) := commandRows.getD (symbol / 64) (0, 0)
  (new + symbol / 8 % 8, copied + symbol % 8)

/- True for a command that goes back as far as the last one. -/
def keepsDistance
    (symbol : Nat) : Bool :=
  symbol < 128

------------------------------------------------------------
-- Distances
------------------------------------------------------------

/-
  How distances are coded: how many of their low bits a symbol
  holds, how many distances have a symbol of their own, and
  whether the window may be large.
-/
structure DistanceShape where
  lowBits : Nat
  direct : Nat
  isLarge : Bool
deriving DecidableEq, Repr

/- How many symbols stand for earlier distances. -/
def recentCount : Nat := 16

/- The greatest distance. -/
def maxDistance : Nat :=
  2 ^ 31 - 4

namespace DistanceShape

/- How many symbols there are. -/
def size
    (d : DistanceShape) : Nat :=
  recentCount + d.direct
    + (if d.isLarge then 62 else 24) * 2 ^ (d.lowBits + 1)

/-
  The least distance of a symbol that is not for an earlier
  distance, and its extra bits.
-/
def entry
    (d : DistanceShape)
    (symbol : Nat) : Nat × Nat :=
  let n := symbol - recentCount
  if n < d.direct then
    (n + 1, 0)
  else
    let m := n - d.direct
    let unit := 2 ^ d.lowBits
    let high := m / unit
    let extra := high / 2 + 1
    (d.direct + ((2 + high % 2) * 2 ^ extra - 4) * unit
      + m % unit + 1, extra)

/- The greatest distance of a symbol. -/
def greatest
    (d : DistanceShape)
    (symbol : Nat) : Nat :=
  let (least, extra) := d.entry symbol
  if extra = 0 then least
  else least + (2 ^ extra - 1) * 2 ^ d.lowBits

/-
  How many symbols may be used: in a large window those that
  stay within the greatest distance.
-/
def limit
    (d : DistanceShape) : Nat :=
  if d.isLarge then
    (List.range d.size).countP fun symbol =>
      symbol < recentCount || d.greatest symbol ≤ maxDistance
  else
    d.size

/- Read the distance of a symbol. -/
def read?
    (d : DistanceShape)
    (symbol : Nat)
    (r : BitReader) : Option (Nat × BitReader) := do
  let (least, extra) := d.entry symbol
  let (more, r) ← r.take? extra
  return (least + more * 2 ^ d.lowBits, r)

end DistanceShape

/- The distances that come before the first one, last first. -/
def firstDistances : List Nat :=
  [4, 11, 15, 16]

/-
  Which earlier distance each symbol stands for, and what is
  added to it.
-/
def recentTable : List (Nat × Int) :=
  [ (0, 0), (1, 0), (2, 0), (3, 0), (0, -1), (0, 1), (0, -2),
    (0, 2), (0, -3), (0, 3), (1, -1), (1, 1), (1, -2), (1, 2),
    (1, -3), (1, 3) ]

/- The distance of a symbol for an earlier distance. -/
def recentDistance?
    (recent : List Nat)
    (symbol : Nat) : Option Nat := do
  let (back, change) ← recentTable[symbol]?
  let last ← recent[back]?
  let distance := (last : Int) + change
  if 0 < distance then some distance.toNat else none

end Courier.Compression.Brotli
