import Courier.Header.Wire
import Courier.Instances
import Courier.Text.Basic
import Courier.Text.Utf8

/-
  This file defines the head of a request: its method, its
  target and its headers, whose values may be any bytes.

  Key definitions include:
    * `Target`
    * `Target.ofUri`
    * `RequestHead`
    * `RequestHead.header?`
    * `RequestHead.cookie?`
-/

namespace Courier

------------------------------------------------------------
-- The target
------------------------------------------------------------

/-
  What a request asks for: everything before the path, the
  path, and the query without its question mark. None of it is
  decoded.
-/
structure Target where
  origin : String := ""
  path : String
  query : Option String := none
deriving DecidableEq, Repr

namespace Target

/- A path and its query, as written in a request line. -/
def ofPathAndQuery
    (origin : String)
    (cs : List Char) : Target :=
  let (path, query) := Text.cutFirst '?' cs
  { origin
    path :=
      if path.isEmpty && !origin.isEmpty then "/"
      else String.ofList path
    query := query.map String.ofList }

/- Cut a text before its first `://`. -/
def cutScheme : List Char → Option (List Char × List Char)
  | ':' :: '/' :: '/' :: rest => some ([], rest)
  | [] => none
  | c :: rest =>
      (cutScheme rest).map fun (scheme, after) =>
        (c :: scheme, after)

/- The schemes that are written in lower case. -/
def webSchemes : List (List Char) :=
  ["http".toList, "https".toList]

/- The written form of a scheme. -/
def schemeText
    (scheme : List Char) : List Char :=
  let lower := scheme.map Char.toLower
  if webSchemes.contains lower then lower else scheme

/-
  The target of a uri. A fragment is dropped; a uri that names
  a scheme and a host has the path `/` when it has none, and a
  host alone has no path at all.
-/
def ofUri
    (uri : String) : Target :=
  let cs := (Text.cutFirst '#' uri.toList).1
  if cs.head? = some '/' || cs = ['*'] then
    ofPathAndQuery "" cs
  else
    match cutScheme cs with
    | none => { origin := String.ofList cs, path := "" }
    | some (scheme, rest) =>
        let host := rest.takeWhile fun c => c ≠ '/' && c ≠ '?'
        ofPathAndQuery
          (String.ofList
            (schemeText scheme ++ "://".toList ++ host))
          (rest.drop host.length)

/- The written form of a target. -/
def render
    (t : Target) : String :=
  t.origin ++ t.path
    ++ (t.query.map fun q => "?" ++ q).getD ""

end Target

------------------------------------------------------------
-- The head
------------------------------------------------------------

/-
  The head of a request. Header names are in lower case and
  stand in the order in which they arrived, one value each.
-/
structure RequestHead where
  method : String
  target : Target
  headers : List (String × ByteArray) := []
deriving DecidableEq

namespace RequestHead

/- The head of a method, a uri and headers in any casing. -/
def ofParts
    (method uri : String)
    (headers : List (String × ByteArray)) : RequestHead where
  method := method
  target := .ofUri uri
  headers := headers.map fun (name, value) =>
    (name.toLower, value)

/- The values sent under a name, in order. -/
def values
    (q : RequestHead)
    (name : String) : List ByteArray :=
  (q.headers.filter (·.1 = name.toLower)).map (·.2)

/- The bytes of visible text: a tab or printable ASCII. -/
def isVisible
    (b : UInt8) : Bool :=
  b = 9 || (32 ≤ b && b ≤ 126)

/- The text of a header value, none when it is not visible. -/
def visible?
    (value : ByteArray) : Option String :=
  let bytes := value.toList
  if bytes.all isVisible then
    some (String.ofList
      (bytes.map fun b => Char.ofNat b.toNat))
  else
    none

/- The last value sent under a name, when it is visible. -/
def header?
    (q : RequestHead)
    (name : String) : Option String :=
  (q.values name).getLast?.bind visible?

/- True when a value was sent under the name. -/
def has
    (q : RequestHead)
    (name : String) : Bool :=
  !(q.values name).isEmpty

/- True for the method that cache policies apply to. -/
def isGet
    (q : RequestHead) : Bool :=
  q.method = "GET"

------------------------------------------------------------
-- Cookies
------------------------------------------------------------

/-
  One piece of a `Cookie` header: a name and, after the first
  equals sign, a value. A piece without one is no pair.
-/
def cookiePair?
    (piece : List Char) : Option (List Char × List Char) :=
  match Text.cutFirst '=' (Text.trimBlanks piece) with
  | (name, some value) => some (name, value)
  | (_, none) => none

/- The pairs of a `Cookie` header, in order. -/
def cookiePairs
    (value : String) : List (List Char × List Char) :=
  (value.toList.splitOn ';').filterMap cookiePair?

/- The value of the first cookie of a name. -/
def cookie?
    (q : RequestHead)
    (name : String) : Option String :=
  let pairs :=
    ((q.values "Cookie").filterMap visible?).flatMap cookiePairs
  (pairs.find? (·.1 = name.toList)).map (String.ofList ·.2)

/- The headers, grouped by name and sorted by it. -/
def grouped
    (q : RequestHead) : List (String × List ByteArray) :=
  let names := (q.headers.map (·.1)).eraseDups.mergeSort
  names.map fun name =>
    (name, (q.headers.filter (·.1 = name)).map (·.2))

end RequestHead

end Courier
