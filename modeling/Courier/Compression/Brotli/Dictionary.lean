import Courier.Compression.Brotli.Words
import Courier.Compression.Deflate
import Courier.Text.Base64

/-
  This file looks up words of the static dictionary of Brotli.
  A word is given by its length and a number: the number chooses
  one of the words of that length and how it is changed.

  Key definitions include:
    * `Brotli.words`
    * `Brotli.Change`
    * `Brotli.Transform`
    * `Brotli.transforms`
    * `Brotli.word?`
-/

namespace Courier.Compression.Brotli

------------------------------------------------------------
-- Words
------------------------------------------------------------

/- The words one after another. -/
def words : ByteArray :=
  ((Deflate.decompress (Base64.decode packedWords)).map
    (·.1)).getD .empty

/- The least length of a word. -/
def minWord : Nat := 4

/- How many bits number the words of each length. -/
def wordBits : List Nat :=
  [10, 10, 11, 11, 10, 10, 10, 10, 10, 9, 9, 8, 7, 7, 8, 7, 7, 6,
    6, 5, 5]

/- How many words there are of a length, if any. -/
def wordCount?
    (length : Nat) : Option Nat :=
  if length < minWord then none
  else wordBits[length - minWord]?.map (2 ^ ·)

/- Where the words of a length begin. -/
def wordsStart
    (length : Nat) : Nat :=
  (List.range length).foldl
    (fun start n => start + n * (wordCount? n).getD 0) 0

------------------------------------------------------------
-- Changes
------------------------------------------------------------

/- What is done to the word itself. -/
inductive Change where
  | keep
  | dropFirst (count : Nat)
  | dropLast (count : Nat)
  | raiseFirst
  | raiseAll
deriving DecidableEq, Repr

/- A change, and the texts that stand around the word. -/
structure Transform where
  before : String
  change : Change
  after : String
deriving DecidableEq, Repr

/- A byte of ASCII in upper case. -/
def raiseByte
    (b : UInt8) : UInt8 :=
  if 97 ≤ b && b ≤ 122 then b ^^^ 32 else b

/-
  Bytes with their first character in upper case. A character of
  two bytes has a bit of the second turned, one of three bytes
  two bits of the third.
-/
def raiseFirst : List UInt8 → List UInt8
  | [] => []
  | a :: rest =>
      if a < 0xC0 then
        raiseByte a :: rest
      else
        match rest with
        | [] => [a]
        | b :: rest =>
            if a < 0xE0 then
              a :: (b ^^^ 32) :: rest
            else
              match rest with
              | [] => [a, b]
              | c :: rest => a :: b :: (c ^^^ 5) :: rest

/- Bytes with all their characters in upper case. -/
def raiseAll : List UInt8 → List UInt8
  | [] => []
  | a :: rest =>
      if a < 0xC0 then
        raiseByte a :: raiseAll rest
      else
        match rest with
        | [] => [a]
        | b :: rest =>
            if a < 0xE0 then
              a :: (b ^^^ 32) :: raiseAll rest
            else
              match rest with
              | [] => [a, b]
              | c :: rest => a :: b :: (c ^^^ 5) :: raiseAll rest

/- Change a word. -/
def Change.apply
    (word : List UInt8) : Change → List UInt8
  | keep => word
  | dropFirst n => word.drop n
  | dropLast n => word.take (word.length - n)
  | raiseFirst => Brotli.raiseFirst word
  | raiseAll => Brotli.raiseAll word

/- Change a word and put the texts around it. -/
def Transform.apply
    (t : Transform)
    (word : List UInt8) : ByteArray :=
  t.before.toUTF8 ++ ⟨(t.change.apply word).toArray⟩
    ++ t.after.toUTF8

/- The changes in the order of their numbers. -/
def transforms : Array Transform :=
  #[ ⟨"", .keep, ""⟩, ⟨"", .keep, " "⟩, ⟨" ", .keep, " "⟩,
    ⟨"", .dropFirst 1, ""⟩, ⟨"", .raiseFirst, " "⟩,
    ⟨"", .keep, " the "⟩, ⟨" ", .keep, ""⟩, ⟨"s ", .keep, " "⟩,
    ⟨"", .keep, " of "⟩, ⟨"", .raiseFirst, ""⟩,
    ⟨"", .keep, " and "⟩, ⟨"", .dropFirst 2, ""⟩,
    ⟨"", .dropLast 1, ""⟩, ⟨", ", .keep, " "⟩, ⟨"", .keep, ", "⟩,
    ⟨" ", .raiseFirst, " "⟩, ⟨"", .keep, " in "⟩,
    ⟨"", .keep, " to "⟩, ⟨"e ", .keep, " "⟩, ⟨"", .keep, "\""⟩,
    ⟨"", .keep, "."⟩, ⟨"", .keep, "\">"⟩, ⟨"", .keep, "\n"⟩,
    ⟨"", .dropLast 3, ""⟩, ⟨"", .keep, "]"⟩, ⟨"", .keep, " for "⟩,
    ⟨"", .dropFirst 3, ""⟩, ⟨"", .dropLast 2, ""⟩,
    ⟨"", .keep, " a "⟩, ⟨"", .keep, " that "⟩,
    ⟨" ", .raiseFirst, ""⟩, ⟨"", .keep, ". "⟩, ⟨".", .keep, ""⟩,
    ⟨" ", .keep, ", "⟩, ⟨"", .dropFirst 4, ""⟩,
    ⟨"", .keep, " with "⟩, ⟨"", .keep, "'"⟩,
    ⟨"", .keep, " from "⟩, ⟨"", .keep, " by "⟩,
    ⟨"", .dropFirst 5, ""⟩, ⟨"", .dropFirst 6, ""⟩,
    ⟨" the ", .keep, ""⟩, ⟨"", .dropLast 4, ""⟩,
    ⟨"", .keep, ". The "⟩, ⟨"", .raiseAll, ""⟩,
    ⟨"", .keep, " on "⟩, ⟨"", .keep, " as "⟩, ⟨"", .keep, " is "⟩,
    ⟨"", .dropLast 7, ""⟩, ⟨"", .dropLast 1, "ing "⟩,
    ⟨"", .keep, "\n\t"⟩, ⟨"", .keep, ":"⟩, ⟨" ", .keep, ". "⟩,
    ⟨"", .keep, "ed "⟩, ⟨"", .dropFirst 9, ""⟩,
    ⟨"", .dropFirst 7, ""⟩, ⟨"", .dropLast 6, ""⟩,
    ⟨"", .keep, "("⟩, ⟨"", .raiseFirst, ", "⟩,
    ⟨"", .dropLast 8, ""⟩, ⟨"", .keep, " at "⟩,
    ⟨"", .keep, "ly "⟩, ⟨" the ", .keep, " of "⟩,
    ⟨"", .dropLast 5, ""⟩, ⟨"", .dropLast 9, ""⟩,
    ⟨" ", .raiseFirst, ", "⟩, ⟨"", .raiseFirst, "\""⟩,
    ⟨".", .keep, "("⟩, ⟨"", .raiseAll, " "⟩,
    ⟨"", .raiseFirst, "\">"⟩, ⟨"", .keep, "=\""⟩,
    ⟨" ", .keep, "."⟩, ⟨".com/", .keep, ""⟩,
    ⟨" the ", .keep, " of the "⟩, ⟨"", .raiseFirst, "'"⟩,
    ⟨"", .keep, ". This "⟩, ⟨"", .keep, ","⟩, ⟨".", .keep, " "⟩,
    ⟨"", .raiseFirst, "("⟩, ⟨"", .raiseFirst, "."⟩,
    ⟨"", .keep, " not "⟩, ⟨" ", .keep, "=\""⟩, ⟨"", .keep, "er "⟩,
    ⟨" ", .raiseAll, " "⟩, ⟨"", .keep, "al "⟩,
    ⟨" ", .raiseAll, ""⟩, ⟨"", .keep, "='"⟩,
    ⟨"", .raiseAll, "\""⟩, ⟨"", .raiseFirst, ". "⟩,
    ⟨" ", .keep, "("⟩, ⟨"", .keep, "ful "⟩,
    ⟨" ", .raiseFirst, ". "⟩, ⟨"", .keep, "ive "⟩,
    ⟨"", .keep, "less "⟩, ⟨"", .raiseAll, "'"⟩,
    ⟨"", .keep, "est "⟩, ⟨" ", .raiseFirst, "."⟩,
    ⟨"", .raiseAll, "\">"⟩, ⟨" ", .keep, "='"⟩,
    ⟨"", .raiseFirst, ","⟩, ⟨"", .keep, "ize "⟩,
    ⟨"", .raiseAll, "."⟩, ⟨"\u00a0", .keep, ""⟩,
    ⟨" ", .keep, ","⟩, ⟨"", .raiseFirst, "=\""⟩,
    ⟨"", .raiseAll, "=\""⟩, ⟨"", .keep, "ous "⟩,
    ⟨"", .raiseAll, ", "⟩, ⟨"", .raiseFirst, "='"⟩,
    ⟨" ", .raiseFirst, ","⟩, ⟨" ", .raiseAll, "=\""⟩,
    ⟨" ", .raiseAll, ", "⟩, ⟨"", .raiseAll, ","⟩,
    ⟨"", .raiseAll, "("⟩, ⟨"", .raiseAll, ". "⟩,
    ⟨" ", .raiseAll, "."⟩, ⟨"", .raiseAll, "='"⟩,
    ⟨" ", .raiseAll, ". "⟩, ⟨" ", .raiseFirst, "=\""⟩,
    ⟨" ", .raiseAll, "='"⟩, ⟨" ", .raiseFirst, "='"⟩ ]

/-
  The word of a length with a number, which counts through the
  words of that length and then through the changes.
-/
def word?
    (length number : Nat) : Option ByteArray := do
  let count ← wordCount? length
  let change ← transforms[number / count]?
  let start := wordsStart length + number % count * length
  return change.apply
    (words.extract start (start + length)).toList

end Courier.Compression.Brotli
