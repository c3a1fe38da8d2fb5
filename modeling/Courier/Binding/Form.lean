import Courier.Binding.Schema
import Courier.Text.Percent

/-
  This file binds the fields of a form. A form is flat: every
  field is one text, and a field that is asked for may be sent
  once at most.

  Key definitions include:
    * `Form.pairs`
    * `Form.bind?`
-/

namespace Courier.Form

/- The names and values of a form, as text. -/
def pairs
    (bytes : List UInt8) : List (String × String) :=
  (Percent.readPairs bytes).map fun (name, value) =>
    (String.ofList (Utf8.decodeLossy name),
      String.ofList (Utf8.decodeLossy value))

/- The value of one field. -/
def field?
    (pairs : List (String × String))
    (name : String)
    (schema : Schema) : Option Bound :=
  match pairs.filter (·.1 = name) with
  | [] => schema.whenMissing?
  | [(_, value)] => schema.ofText? value
  | _ => none

/- Bind the fields of a form; other fields are ignored. -/
def bind?
    (pairs : List (String × String)) : Schema → Option Bound
  | .nothing => some .nothing
  | .record fields =>
      (fields.mapM fun (name, schema) =>
        (field? pairs name schema).map fun value =>
          (name, value)).map .record
  | _ => none

end Courier.Form
