import Courier.Header.List

/-
  This file defines the headers of a message on the wire. Only
  an HTTP token is a name and only visible text is a value; a
  pair that is neither is left out.

  Key definitions include:
    * `Header.isToken`
    * `Header.isFieldText`
    * `HeaderMap`
    * `WireHeaders`
    * `WireHeaders.set`
    * `WireHeaders.add`
    * `WireHeaders.del`
    * `WireHeaders.sorted`
-/

namespace Courier

------------------------------------------------------------
-- Names and values
------------------------------------------------------------

namespace Header

/- The characters of an HTTP token. -/
def isTokenChar
    (c : Char) : Bool :=
  c.isAlphanum || c ∈ "!#$%&'*+-.^_`|~".toList

/- The longest name that a message can carry. -/
def maxNameLength : Nat :=
  65535

/- True for a text that can name a header. -/
def isToken
    (name : String) : Bool :=
  !name.isEmpty && name.toList.all isTokenChar
    && name.length ≤ maxNameLength

/- The characters of a header value. -/
def isFieldChar
    (c : Char) : Bool :=
  (32 ≤ c.toNat && c.toNat ≠ 127) || c = '\t'

/- True for a text that can be a header value. -/
def isFieldText
    (value : String) : Bool :=
  value.toList.all isFieldChar

/- True for a pair that a message can carry. -/
def isSendable
    (name value : String) : Bool :=
  isToken name && isFieldText value

end Header

------------------------------------------------------------
-- Header maps
------------------------------------------------------------

/-
  A map of headers, which can be given tokens and field text
  only: it replaces, appends and removes the values of a name.
-/
class HeaderMap (μ : Type) where
  insert : String → String → μ → μ
  append : String → String → μ → μ
  remove : String → μ → μ
  getAll : String → μ → List String

/- What a map cannot be given is left out. -/
instance
    {μ : Type} [HeaderMap μ] : HeaderTarget μ where
  set name value m :=
    if Header.isSendable name value then
      HeaderMap.insert name value m
    else
      m
  add name value m :=
    if Header.isSendable name value then
      HeaderMap.append name value m
    else
      m
  del name m := HeaderMap.remove name.toLower m

------------------------------------------------------------
-- Outgoing headers
------------------------------------------------------------

/- The headers of a message that is about to be sent. -/
structure WireHeaders where
  fields : HeaderList := .empty
deriving DecidableEq, Repr

namespace WireHeaders

instance : HeaderMap WireHeaders where
  insert name value w := ⟨w.fields.set name value⟩
  append name value w := ⟨w.fields.add name value⟩
  remove name w := ⟨w.fields.del name⟩
  getAll name w := w.fields.getAll name

/- The message without headers. -/
def empty : WireHeaders :=
  ⟨.empty⟩

/- Replace the values of a name, unless the pair is refused. -/
def set
    (w : WireHeaders)
    (name value : String) : WireHeaders :=
  HeaderTarget.set name value w

/- Append a value to a name, unless the pair is refused. -/
def add
    (w : WireHeaders)
    (name value : String) : WireHeaders :=
  HeaderTarget.add name value w

/- Remove a name and all of its values. -/
def del
    (w : WireHeaders)
    (name : String) : WireHeaders :=
  HeaderTarget.del name w

/- The values of a name, in order. -/
def getAll
    (w : WireHeaders)
    (name : String) : List String :=
  HeaderMap.getAll name w

/- The headers of a list of pairs, appended one by one. -/
def ofList
    (pairs : List (String × String)) : WireHeaders :=
  pairs.foldl (fun w (name, value) => w.add name value) empty

/- The names and values, sorted by name. -/
def sorted
    (w : WireHeaders) : List (String × List String) :=
  (w.fields.entries.map fun e => (e.name, e.values)).mergeSort
    fun a b => a.1 ≤ b.1

end WireHeaders

end Courier
