import Courier.Calendar
import Courier.Header.List

/-
  This file defines cache policies, the `Cache-Control` value
  that a policy renders to, and which policy applies to a
  response.

  Key definitions include:
    * `CachePolicy`
    * `CachePolicy.directives`
    * `CachePolicy.render`
    * `CachePolicy.pick`
-/

namespace Courier

/-
  How a response may be cached. A zero duration and a `false`
  flag mean that the directive is absent.
-/
structure CachePolicy where
  disableAutoResponse : Bool := false
  disableTagGeneration : Bool := false
  maxAge : Duration := {}
  sharedMaxAge : Duration := {}
  staleWhileRevalidate : Duration := {}
  staleIfError : Duration := {}
  immutable : Bool := false
  noStore : Bool := false
  noCache : Bool := false
  mustRevalidate : Bool := false
  isPrivate : Bool := false
  proxyRevalidate : Bool := false
  mustUnderstand : Bool := false
  noTransform : Bool := false
deriving DecidableEq, Repr

namespace CachePolicy

/- A directive in whole seconds, unless the span is zero. -/
def span
    (key : String)
    (d : Duration) : List String :=
  if d.isZero then [] else [key ++ "=" ++ toString d.seconds]

/- A directive without a value, when it is active. -/
def flag
    (key : String)
    (active : Bool) : List String :=
  if active then [key] else []

/- Who may store the response. -/
def visibility
    (p : CachePolicy) : String :=
  if p.isPrivate then "private" else "public"

/- The active directives, in a fixed order. -/
def directives
    (p : CachePolicy) : List String :=
  span "max-age" p.maxAge
    ++ span "s-maxage" p.sharedMaxAge
    ++ flag "no-store" p.noStore
    ++ flag "no-cache" p.noCache
    ++ flag "immutable" p.immutable
    ++ flag "must-revalidate" p.mustRevalidate
    ++ flag "proxy-revalidate" p.proxyRevalidate
    ++ flag "must-understand" p.mustUnderstand
    ++ flag "no-transform" p.noTransform
    ++ span "stale-while-revalidate" p.staleWhileRevalidate
    ++ span "stale-if-error" p.staleIfError

/- The `Cache-Control` value of a policy. -/
def render
    (p : CachePolicy) : String :=
  String.intercalate ", " (p.visibility :: p.directives)

/-
  The policy that applies: none when the handler wrote its own
  `Cache-Control`, else that of the response, else that of the
  endpoint.
-/
def pick
    (endpoint response : Option CachePolicy)
    (headers : HeaderList) : Option CachePolicy :=
  if headers.has "Cache-Control" then
    none
  else
    response.or endpoint

end CachePolicy

end Courier
