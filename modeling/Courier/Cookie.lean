import Courier.Calendar

/-
  This file defines the cookies that a response sets and their
  written form.

  Key definitions include:
    * `SameSite`
    * `Cookie`
    * `Cookie.removal`
    * `DateFormat`
    * `Cookie.pieces?`
    * `Cookie.renderWith?`
    * `Cookie.render?`
-/

namespace Courier

/- When a client sends a cookie along from other sites. -/
inductive SameSite where
  | strict
  | lax
  | none
deriving DecidableEq, Repr

/- The token of the attribute. -/
def SameSite.token : SameSite → String
  | strict => "Strict"
  | lax => "Lax"
  | none => "None"

/- How an instant is written as a date, when it can be. -/
abbrev DateFormat :=
  Instant → Option String

/- A cookie that a response sets. -/
structure Cookie where
  name : String
  value : String
  path : Option String := none
  domain : Option String := none
  expires : Option Instant := none
  maxAge : Option Duration := none
  secure : Bool := false
  httpOnly : Bool := false
  sameSite : Option SameSite := none
deriving DecidableEq, Repr

namespace Cookie

/- A cookie that expired at the start of 1970. -/
def removal
    (name : String) : Cookie where
  name := name
  value := "v"
  expires := some ⟨0, 0⟩

/- An attribute with a value, when it is set. -/
def valued
    (key : String)
    (value : Option String) : List String :=
  (value.map fun v => key ++ "=" ++ v).toList

/- An attribute without a value, when it is set. -/
def mark
    (key : String)
    (active : Bool) : List String :=
  if active then [key] else []

/-
  The pieces of the written form for a written expiry date: the
  pair and one piece for each attribute that is set, in a fixed
  order.
-/
def piecesWith
    (c : Cookie)
    (expires : Option String) : List String :=
  [c.name ++ "=" ++ c.value]
    ++ valued "Path" c.path
    ++ valued "Domain" c.domain
    ++ valued "Expires" expires
    ++ valued "Max-Age" (c.maxAge.map (toString ·.seconds))
    ++ mark "HttpOnly" c.httpOnly
    ++ mark "Secure" c.secure
    ++ valued "SameSite" (c.sameSite.map SameSite.token)

/- The pieces, none when the expiry date cannot be written. -/
def pieces?
    (date : DateFormat)
    (c : Cookie) : Option (List String) :=
  match c.expires with
  | none => some (c.piecesWith none)
  | some t =>
      (date t).map fun written => c.piecesWith (some written)

/- The written form, with dates in a format. -/
def renderWith?
    (date : DateFormat)
    (c : Cookie) : Option String :=
  (c.pieces? date).map (String.intercalate "; ")

/- The value of a `Set-Cookie` header. -/
def render?
    (c : Cookie) : Option String :=
  c.renderWith? Calendar.httpDate?

end Cookie

end Courier
