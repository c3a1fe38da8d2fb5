import Courier.Binding.Form
import Courier.Binding.Json
import Courier.Binding.Query

/-
  This file defines the formats that the parts of a request are
  read in. What a handler is given depends on a format only by
  what the format makes of some bytes, so any three formats can
  take the place of the standard ones.

  Key definitions include:
    * `Shown`
    * `Format`
    * `Format.bind?`
    * `Formats`
    * `Formats.standard`
-/

namespace Courier

/-
  What a format shows to a reader that asks for a map: nothing
  at all, or entries, each of which can be read or not.
-/
inductive Shown where
  | unit
  | entries (readable : List Bool)
deriving DecidableEq, Repr

/- True for what can be read to its end, entry by entry. -/
def Shown.isReadable : Shown → Bool
  | unit => true
  | entries readable => readable.all id

/-
  A format. Of some bytes it may show a map, and it may read a
  value of a schema from them.
-/
structure Format where
  shown? : List UInt8 → Option Shown
  read? : Schema → List UInt8 → Option Bound

/-
  Bind bytes in a format. To bind nothing is to read a map and
  to drop its entries.
-/
def Format.bind?
    (format : Format)
    (schema : Schema)
    (bytes : List UInt8) : Option Bound :=
  match schema with
  | .nothing =>
      if (format.shown? bytes).any Shown.isReadable then
        some .nothing
      else none
  | schema => format.read? schema bytes

/- The format of queries. -/
def Query.format : Format where
  shown? bytes :=
    (QueryValue.ofBytes? bytes).map fun value =>
      .entries ((value.entries?.getD []).map fun _ => true)
  read? schema bytes :=
    (QueryValue.ofBytes? bytes).bind (bind? schema)

/- The format of JSON bodies; the name of a member is text. -/
def JsonBinding.format : Format where
  shown? bytes :=
    match JsonDocument.ofBytes? bytes with
    | some (.obj members) =>
        some (.entries (members.map (·.1.isSome)))
    | _ => none
  read? schema bytes :=
    (JsonDocument.ofBytes? bytes).bind (bind? schema)

/- The format of forms; any bytes are a form. -/
def Form.format : Format where
  shown? bytes :=
    some (.entries ((pairs bytes).map fun _ => true))
  read? schema bytes := bind? (pairs bytes) schema

/-
  The formats of a server, and how it writes names and values as
  a form.
-/
structure Formats where
  query : Format
  json : Format
  form : Format
  writeForm? : List (String × String) → Option (List Char)

/- The formats that servers are run with. -/
def Formats.standard : Formats where
  query := Query.format
  json := JsonBinding.format
  form := Form.format
  writeForm? pairs := some (Percent.encodePairs pairs)

end Courier
