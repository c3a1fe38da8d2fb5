import Courier.Decimal.Shortest
import Courier.Json.Document
import Courier.Text.Numeral

/-
  This file defines JSON values, which are read from documents,
  and their compact written form.

  Key definitions include:
    * `JsonValue`
    * `JsonValue.ofDocument?`
    * `JsonValue.quote`
    * `JsonValue.renderReal`
    * `JsonValue.render`
-/

namespace Courier

/- A JSON value. The members of an object stand in order. -/
inductive JsonValue where
  | null
  | bool (value : Bool)
  | int (value : Int)
  | real (value : Float)
  | str (value : String)
  | arr (items : List JsonValue)
  | obj (members : List (String × JsonValue))
deriving Inhabited

namespace JsonValue

------------------------------------------------------------
-- Numbers
------------------------------------------------------------

/- A real with its sign. -/
def signed
    (isNegative : Bool)
    (x : Float) : JsonValue :=
  real (if isNegative then -x else x)

/-
  The value of a whole number: exact within sixty-four bits, a
  real beyond them.
-/
def ofWhole?
    (n : Int) : Option JsonValue :=
  if -(2 ^ 63) ≤ n && n < 2 ^ 64 then
    some (int n)
  else
    (Decimal.Scaled.toFloat? ⟨n.natAbs, 0⟩).map
      (signed (n < 0))

------------------------------------------------------------
-- Reading
------------------------------------------------------------

/- The value of a part of a document that has no parts. -/
def ofLeaf? : JsonLeaf → Option JsonValue
  | .null => some null
  | .bool b => some (bool b)
  | .whole n => ofWhole? n
  | .real isNegative magnitude =>
      magnitude.toFloat?.map (signed isNegative)
  | .text content => content.map str

/-
  Put a member in its place by name. Of two members with one
  name the one that is put first stays.
-/
def putMember
    (name : String)
    (value : JsonValue) :
    List (String × JsonValue) → List (String × JsonValue)
  | [] => [(name, value)]
  | (n, v) :: rest =>
      if name < n then (name, value) :: (n, v) :: rest
      else if name = n then (n, v) :: rest
      else (n, v) :: putMember name value rest

mutual

/-
  The value of a document. The members of an object are put in
  order of their names; of those with one name the last counts.
-/
def ofDocument? : JsonDocument → Option JsonValue
  | .leaf value => ofLeaf? value
  | .arr items => (ofItems? items).map arr
  | .obj members => (ofMembers? members).map obj

/- The values of the items of an array. -/
def ofItems? : List JsonDocument → Option (List JsonValue)
  | [] => some []
  | item :: rest =>
      match ofDocument? item, ofItems? rest with
      | some v, some vs => some (v :: vs)
      | _, _ => none

/- The values of the members of an object. -/
def ofMembers? :
    JsonDocument.Members → Option (List (String × JsonValue))
  | [] => some []
  | (none, _) :: _ => none
  | (some name, member) :: rest =>
      match ofDocument? member, ofMembers? rest with
      | some v, some vs => some (putMember name v vs)
      | _, _ => none

end

/- The value that bytes write. -/
def ofBytes?
    (bytes : List UInt8) : Option JsonValue :=
  (JsonDocument.ofBytes? bytes).bind ofDocument?

------------------------------------------------------------
-- Writing numbers
------------------------------------------------------------

/- A run of zeros. -/
def zeros
    (n : Nat) : String :=
  String.ofList (List.replicate n '0')

/-
  The written form of a positive real: positional within
  sixteen digits before and five zeros after the point, else
  with an exponent and its sign.
-/
def renderPositive
    (d : Decimal.Scaled) : String :=
  let digits := toString d.digits
  let n := digits.length
  let point := (n : Int) + d.exponent
  if 0 ≤ d.exponent && point ≤ 16 then
    digits ++ zeros d.exponent.toNat ++ ".0"
  else if 0 < point && point ≤ 16 then
    String.ofList (digits.toList.take point.toNat) ++ "."
      ++ String.ofList (digits.toList.drop point.toNat)
  else if -5 < point && point ≤ 0 then
    "0." ++ zeros (-point).toNat ++ digits
  else
    String.ofList (digits.toList.take 1)
      ++ (if n = 1 then "" else
        "." ++ String.ofList (digits.toList.drop 1))
      ++ (if 0 < point then "e+" else "e") ++ toString (point - 1)

/- The written form of a real. -/
def renderReal
    (x : Float) : String :=
  let sign := if 2 ^ 63 ≤ x.toBits.toNat then "-" else ""
  let magnitude := Decimal.Binary.ofFloat x
  if magnitude.mantissa = 0 then
    sign ++ "0.0"
  else
    sign ++ renderPositive magnitude.shortest

------------------------------------------------------------
-- Text
------------------------------------------------------------

/- The written form of one character. -/
def escape
    (c : Char) : List Char :=
  if c = '"' then ['\\', '"']
  else if c = '\\' then ['\\', '\\']
  else if c = '\n' then ['\\', 'n']
  else if c = '\r' then ['\\', 'r']
  else if c = '\t' then ['\\', 't']
  else if c = '\x08' then ['\\', 'b']
  else if c = '\x0c' then ['\\', 'f']
  else if c.toNat < 32 then
    '\\' :: 'u' :: (Numeral.hexPadded 4 c.toNat).toList
  else [c]

/- The written form of a text. -/
def quote
    (s : String) : String :=
  "\"" ++ String.ofList (s.toList.flatMap escape) ++ "\""

------------------------------------------------------------
-- Values
------------------------------------------------------------

mutual

/- The compact written form of a value. -/
def render : JsonValue → String
  | null => "null"
  | bool b => if b then "true" else "false"
  | int n => toString n
  | real x => renderReal x
  | str s => quote s
  | arr items =>
      "[" ++ String.intercalate "," (renderItems items) ++ "]"
  | obj members =>
      "\x7b" ++ String.intercalate "," (renderMembers members)
        ++ "\x7d"

/- The written forms of the items of an array. -/
def renderItems : List JsonValue → List String
  | [] => []
  | item :: rest => render item :: renderItems rest

/- The written forms of the members of an object. -/
def renderMembers : List (String × JsonValue) → List String
  | [] => []
  | (key, value) :: rest =>
      (quote key ++ ":" ++ render value) :: renderMembers rest

end

end JsonValue

end Courier
