import Courier.Text.Numeral

/-
  This file defines what a handler wants to be given, what it is
  given, and why that may fail.

  Key definitions include:
    * `Schema`
    * `Bound`
    * `Schema.ofText?`
    * `Schema.whenMissing?`
    * `BindError`
-/

namespace Courier

/- The shape of a value that a handler asks for. -/
inductive Schema where
  | nothing
  | text
  | natural (bits : Nat)
  | integer (bits : Nat)
  | flag
  | optional (schema : Schema)
  | list (schema : Schema)
  | record (fields : List (String × Schema))

/- A value of the shape that was asked for. -/
inductive Bound where
  | nothing
  | absent
  | text (value : String)
  | number (value : Int)
  | flag (value : Bool)
  | list (items : List Bound)
  | record (fields : List (String × Bound))

namespace Schema

/- The truth value that a text writes. -/
def flag?
    (s : String) : Option Bool :=
  if s = "true" then some true
  else if s = "false" then some false
  else none

/- The value that a text writes. -/
def ofText?
    (s : String) : Schema → Option Bound
  | text => some (.text s)
  | natural bits =>
      (Numeral.readNat (2 ^ bits) s.toList).toOption.map
        fun n => .number n
  | integer bits =>
      (Numeral.readInt bits s.toList).toOption.map .number
  | flag => (flag? s).map .flag
  | optional schema => schema.ofText? s
  | nothing | list _ | record _ => none

/- The value of a field that was not sent. -/
def whenMissing? : Schema → Option Bound
  | optional _ => some .absent
  | _ => none

end Schema

------------------------------------------------------------
-- Failures
------------------------------------------------------------

/- Why a request does not hold what a handler asks for. -/
inductive BindError where
  | query
  | json
  | form
  | pathParams
  | unsupportedType (contentType : Option String)
deriving DecidableEq, Repr

namespace BindError

/- A text in quotes, as it stands in a message. -/
def quoted
    (s : String) : String :=
  "\"" ++ String.ofList (s.toList.flatMap fun c =>
    if c = '"' || c = '\\' then ['\\', c]
    else if c = '\t' then ['\\', 't']
    else [c]) ++ "\""

/- The content type of a request, as it stands in a message. -/
def typeText : Option String → String
  | none => "None"
  | some t => "Some(" ++ quoted t ++ ")"

/- The wording for whoever runs the server. -/
def message : BindError → String
  | query => "invalid parameters"
  | json => "invalid json body"
  | form => "invalid form body"
  | pathParams => "cannot encode path parameters"
  | unsupportedType t =>
      "unsupported body content type: " ++ typeText t

/- The wording for the client. -/
def answerText : BindError → String
  | query | pathParams => "invalid parameters"
  | json | form => "invalid request body"
  | unsupportedType _ => "unsupported request body content type"

end BindError

end Courier
