import Courier.Binding.Schema
import Courier.Json.Document

/-
  This file binds JSON documents.

  Key definitions include:
    * `JsonBinding.bind?`
-/

namespace Courier.JsonBinding

/- The text of a value that is one. -/
def text? : JsonDocument → Option String
  | .leaf (.text content) => content
  | _ => none

/- The number of a value that is whole and within bounds. -/
def number?
    (least most : Int) : JsonDocument → Option Int
  | .leaf (.whole n) =>
      if least ≤ n && n ≤ most then some n else none
  | _ => none

/- The members of an object whose names are all text. -/
def named?
    (members : JsonDocument.Members) :
    Option (List (String × JsonDocument)) :=
  members.mapM fun (name, value) =>
    name.map fun name => (name, value)

mutual

/-
  Bind a document. A record is an object, whose other members
  are ignored, or the array of all its fields in order.
-/
def bind?
    (schema : Schema)
    (document : JsonDocument) : Option Bound :=
  match schema with
  | .nothing =>
      match document with
      | .obj members => (named? members).map fun _ => .nothing
      | _ => none
  | .text => (text? document).map .text
  | .natural bits =>
      (number? 0 (2 ^ bits - 1) document).map .number
  | .integer bits =>
      (number? (-(2 ^ (bits - 1))) (2 ^ (bits - 1) - 1)
        document).map .number
  | .flag =>
      match document with
      | .leaf (.bool b) => some (.flag b)
      | _ => none
  | .optional schema =>
      match document with
      | .leaf .null => some .absent
      | _ => bind? schema document
  | .list schema =>
      match document with
      | .arr items => (items.mapM (bind? schema)).map .list
      | _ => none
  | .record fields =>
      match document with
      | .arr items => (inOrder? fields items).map .record
      | .obj members =>
          match named? members with
          | none => none
          | some members => (byName? fields members).map .record
      | _ => none

/- Bind fields to as many items. -/
def inOrder?
    (fields : List (String × Schema))
    (items : List JsonDocument) :
    Option (List (String × Bound)) :=
  match fields, items with
  | [], [] => some []
  | (name, schema) :: fields, item :: items =>
      match bind? schema item with
      | none => none
      | some bound =>
          (inOrder? fields items).map ((name, bound) :: ·)
  | _, _ => none

/- Bind fields to the members of their names. -/
def byName?
    (fields : List (String × Schema))
    (members : List (String × JsonDocument)) :
    Option (List (String × Bound)) :=
  match fields with
  | [] => some []
  | (name, schema) :: rest =>
      match
        match members.filter (·.1 = name) with
        | [] => schema.whenMissing?
        | [(_, value)] => bind? schema value
        | _ => none
      with
      | none => none
      | some bound =>
          (byName? rest members).map ((name, bound) :: ·)

end

end Courier.JsonBinding
