import Courier.Request.Basic
import Courier.Response.Basic
import Courier.Source.Any

/-
  This file defines what stands around a handler: authenticators
  and middlewares. They run in a world of their own, so that
  they may remember things from one call to the next.

  Key definitions include:
    * `Answer`
    * `AuthOutcome`
    * `Authenticator`
    * `Middleware`
-/

namespace Courier

/- A response as handlers give it. -/
abbrev Answer :=
  Response AnySource

/- What an authenticator says about a request. -/
inductive AuthOutcome where
  | ok
  | unauthorized
  | forbidden
deriving DecidableEq, Repr

namespace AuthOutcome

/- True when the request may go on. -/
def isOk
    (outcome : AuthOutcome) : Bool :=
  outcome = ok

/- The response that a request is refused with. -/
def refusal? : AuthOutcome → Option Answer
  | ok => none
  | unauthorized => some (.ofStatus 401)
  | forbidden => some (.ofStatus 403)

end AuthOutcome

/- A check of a request, which may change the request. -/
abbrev Authenticator (ω δ : Type) :=
  Request δ → StateM ω (AuthOutcome × Request δ)

/-
  What happens before and after a handler. Before it the request
  may be changed and may be answered right away; after it the
  response may be replaced. Both may fail.
-/
structure Middleware (ω δ : Type) where
  onRequest :
    Request δ → StateM ω (Except String (Option Answer) × Request δ)
  onResponse :
    Request δ → Answer → StateM ω (Except String Answer)

/- The middleware that does nothing. -/
def Middleware.passive
    {ω δ : Type} : Middleware ω δ where
  onRequest request := pure (.ok none, request)
  onResponse _ answer := pure (.ok answer)

end Courier
