import Courier.Binding.Schema
import Courier.Text.Percent

/-
  This file binds query strings. A key may go into a value by
  steps in brackets: a name, a position, or the next position.

  Key definitions include:
    * `QueryStep`
    * `QueryValue`
    * `QueryValue.insert?`
    * `QueryValue.ofBytes?`
    * `Query.bind?`
-/

namespace Courier

/- One step of a key into a value. -/
inductive QueryStep where
  | name (key : String)
  | index (position : Nat)
  | push
deriving DecidableEq, Repr

/-
  A value of a query. Nothing has been put into a `fresh` value
  yet; a `clash` was sent in two ways that do not agree.
-/
inductive QueryValue where
  | fresh
  | clash
  | text (value : String)
  | map (entries : List (String × QueryValue))
  | indexed (entries : List (Nat × QueryValue))
  | items (items : List QueryValue)

namespace QueryStep

/- The text of a part of a query. -/
def decode?
    (bytes : List UInt8) : Option String :=
  Utf8.decode? (Percent.decodeBytes bytes)

/-
  The step that stands between two brackets: what begins with a
  digit is a position, and any other text that is no bracket and
  begins in printable ASCII is a name.
-/
def ofBrackets?
    (inside : List UInt8) : Option QueryStep :=
  match inside with
  | [] => none
  | first :: _ =>
      if 48 ≤ first && first ≤ 57 then
        match decode? inside with
        | none => none
        | some s =>
            (Numeral.readNat (2 ^ 64) s.toList).toOption.map .index
      else if first = 91 || first < 32 || 126 < first then
        none
      else
        (decode? inside).map .name

/-
  The steps in brackets and the bytes of the value, which is
  empty when no equals sign follows. A bracket that is not closed
  reaches to the end, and must not end the whole query right
  away. The next position is the last step of its key. Below the
  steps that are counted, everything is one name.
-/
def bracketed?
    (endsQuery : Bool) :
    Nat → List UInt8 → Option (List QueryStep × List UInt8)
  | _, [] => some ([], [])
  | _, 61 :: value => some ([], value)
  | 0, 91 :: rest =>
      let (key, value) := Text.cutFirst 61 (91 :: rest)
      (decode? key).map fun key => ([.name key], value.getD [])
  | _ + 1, [91] =>
      if endsQuery then none else some ([.name ""], [])
  | _ + 1, [91, 93] => some ([.push], [])
  | _ + 1, 91 :: 93 :: 61 :: value => some ([.push], value)
  | depth + 1, 91 :: rest =>
      let inside := rest.takeWhile (· ≠ 93)
      match ofBrackets? inside,
        bracketed? endsQuery depth
          (rest.drop (inside.length + 1)) with
      | some step, some (steps, value) =>
          some (step :: steps, value)
      | _, _ => none
  | _, _ => none

/-
  The steps of a key and the bytes of its value. The first byte
  belongs to the key, unless it opens a bracket.
-/
def ofPiece?
    (endsQuery : Bool)
    (depth : Nat) :
    List UInt8 → Option (List QueryStep × List UInt8)
  | [] => none
  | 91 :: rest => bracketed? endsQuery depth (91 :: rest)
  | first :: rest =>
      let more := rest.takeWhile fun b => b ≠ 61 && b ≠ 91
      match decode? (first :: more),
        bracketed? endsQuery (depth - 1) (rest.drop more.length)
        with
      | some key, some (steps, value) =>
          some (.name key :: steps, value)
      | _, _ => none

end QueryStep

namespace QueryValue

------------------------------------------------------------
-- Reading
------------------------------------------------------------

/- Put an entry in place of the one with its key, or last. -/
def putEntry
    {κ α : Type}
    [DecidableEq κ]
    (key : κ)
    (value : α) : List (κ × α) → List (κ × α)
  | [] => [(key, value)]
  | (k, v) :: rest =>
      if k = key then (key, value) :: rest
      else (k, v) :: putEntry key value rest

/-
  Put a text where the steps lead. What is there already, or is
  entered in another way by the last step, becomes a clash; to
  enter it in another way by an earlier step is refused.
-/
def insert?
    (leaf : String) :
    List QueryStep → QueryValue → Option QueryValue
  | [], .fresh => some (.text leaf)
  | [], _ => some .clash
  | .name key :: steps, .fresh =>
      (insert? leaf steps .fresh).map fun v => .map [(key, v)]
  | .name key :: steps, .map entries =>
      (insert? leaf steps ((entries.lookup key).getD .fresh)).map
        fun v => .map (putEntry key v entries)
  | .index i :: steps, .fresh =>
      (insert? leaf steps .fresh).map fun v =>
        .indexed [(i, v)]
  | .index i :: steps, .indexed entries =>
      (insert? leaf steps ((entries.lookup i).getD .fresh)).map
        fun v => .indexed (putEntry i v entries)
  | .push :: steps, .fresh =>
      (insert? leaf steps .fresh).map fun v => .items [v]
  | .push :: steps, .items old =>
      (insert? leaf steps .fresh).map fun v =>
        .items (old ++ [v])
  | [_], _ => some .clash
  | _, _ => none

/- Put one piece of a query into a value. -/
def addPiece?
    (endsQuery : Bool)
    (depth : Nat)
    (whole : QueryValue)
    (piece : List UInt8) : Option QueryValue :=
  match QueryStep.ofPiece? endsQuery depth piece with
  | none => none
  | some (steps, value) =>
      match QueryStep.decode? value with
      | none => none
      | some s => insert? s steps whole

/-
  Put the pieces of a query into a value. Empty ones are passed
  over; each of the others may go one step deeper than the last.
-/
def addPieces?
    (depth : Nat)
    (whole : QueryValue) :
    List (List UInt8) → Option QueryValue
  | [] => some whole
  | piece :: rest =>
      if piece.isEmpty then
        addPieces? depth whole rest
      else
        match addPiece? rest.isEmpty depth whole piece with
        | none => none
        | some whole => addPieces? (depth + 1) whole rest

mutual

/- True if nothing in a value was sent in two ways. -/
def isSettled : QueryValue → Bool
  | clash => false
  | fresh | text _ => true
  | map entries => entriesSettled entries
  | indexed entries => positionsSettled entries
  | items l => itemsSettled l

/- True if all named entries are settled. -/
def entriesSettled : List (String × QueryValue) → Bool
  | [] => true
  | (_, v) :: rest => isSettled v && entriesSettled rest

/- True if all numbered entries are settled. -/
def positionsSettled : List (Nat × QueryValue) → Bool
  | [] => true
  | (_, v) :: rest => isSettled v && positionsSettled rest

/- True if all items are settled. -/
def itemsSettled : List QueryValue → Bool
  | [] => true
  | v :: rest => isSettled v && itemsSettled rest

end

/- The number of steps that the first key may take. -/
def firstDepth : Nat := 5

/-
  The value of a query string: its entries by name. A query that
  addresses the whole by position holds nothing.
-/
def ofBytes?
    (bytes : List UInt8) : Option QueryValue :=
  match addPieces? firstDepth (.map []) (Percent.split 38 bytes)
    with
  | none => none
  | some .clash => some (.map [])
  | some whole => if whole.isSettled then some whole else none

------------------------------------------------------------
-- Binding
------------------------------------------------------------

/- True for a value that counts as not sent. -/
def isMissing : QueryValue → Bool
  | fresh => true
  | text s => s.isEmpty
  | _ => false

/-
  The items that a value lists: in order of position, or in the
  order they were sent.
-/
def listed? : QueryValue → Option (List QueryValue)
  | items l => some l
  | indexed entries =>
      some ((entries.mergeSort fun a b => a.1 ≤ b.1).map (·.2))
  | _ => none

/- The named entries of a value; a position is a name too. -/
def entries? : QueryValue → Option (List (String × QueryValue))
  | map entries => some entries
  | indexed entries =>
      some (entries.map fun (i, v) => (toString i, v))
  | _ => none

end QueryValue

namespace Query

mutual

/- Bind a value of a query; other entries are ignored. -/
def bind?
    (schema : Schema)
    (value : QueryValue) : Option Bound :=
  match schema with
  | .nothing => some .nothing
  | .optional schema =>
      if value.isMissing then some .absent
      else bind? schema value
  | .list schema =>
      match value.listed? with
      | none => none
      | some items => (items.mapM (bind? schema)).map .list
  | .record fields =>
      match value.entries? with
      | none => none
      | some entries => (fields? fields entries).map .record
  | scalar =>
      match value with
      | .text s => scalar.ofText? s
      | _ => none

/- Bind the fields of a record. -/
def fields?
    (fields : List (String × Schema))
    (entries : List (String × QueryValue)) :
    Option (List (String × Bound)) :=
  match fields with
  | [] => some []
  | (name, schema) :: rest =>
      match
        match entries.lookup name with
        | none => schema.whenMissing?
        | some value => bind? schema value
      with
      | none => none
      | some bound =>
          (fields? rest entries).map ((name, bound) :: ·)

end

end Query

end Courier
