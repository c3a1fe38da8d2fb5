import Courier.Server.RouteTree

/-
  This file runs the chain of a route: its authenticators, the
  request hooks of its middlewares, its handler, and the
  response hooks. What comes out is the one response that is
  then delivered.

  Every call is written down together with what it was given.

  Key definitions include:
    * `Call`
    * `Progress`
    * `Chain.authenticate`
    * `Chain.requestHooks`
    * `Chain.responseHooks`
    * `Decision`
    * `Chain.respond`
    * `Chain.run`
    * `Served`
    * `Chain.serve`
-/

namespace Courier

/- A call of the chain and what it is given. -/
inductive Call (δ : Type) where
  | authenticate (index : Nat) (request : Request δ)
  | onRequest (index : Nat) (request : Request δ)
  | handle (request : Request δ)
  | onResponse
      (index : Nat)
      (request : Request δ)
      (answer : Answer)

/- The world that the calls run in, and the calls so far. -/
structure Progress (ω δ : Type) where
  world : ω
  calls : List (Call δ) := []

/- The response to deliver, with what, and to which request. -/
structure Decision (δ : Type) where
  request : Request δ
  answer : Answer
  delivery : Delivery

/- Deliver the response that was decided on. -/
def Decision.deliver
    {δ τ : Type} [Connection τ]
    (d : Decision δ) : Exchange.Act τ Assembly.Result :=
  d.delivery.deliver d.answer d.request.head

/- What a request is answered with, and what that leaves. -/
structure Served (ω δ τ : Type) where
  result : Assembly.Result
  progress : Progress ω δ
  exchange : Exchange τ

namespace Chain

variable {ω δ : Type}

/- A part of the chain. -/
abbrev Part
    (ω δ α : Type) : Type :=
  StateM (Progress ω δ) α

/- Make a call and write it down. -/
def perform
    {α : Type}
    (call : Call δ)
    (act : StateM ω α) : Part ω δ α := fun p =>
  let (result, world) := act p.world
  (result, ⟨world, p.calls ++ [call]⟩)

/-
  Ask authenticators in order, up to the first that refuses the
  request. The first of them has the number `index`.
-/
def authenticate
    (index : Nat)
    (auths : List (Authenticator ω δ))
    (request : Request δ) :
    Part ω δ (Option Answer × Request δ) :=
  match auths with
  | [] => pure (none, request)
  | auth :: rest => do
      let (outcome, request) ←
        perform (.authenticate index request) (auth request)
      match outcome.refusal? with
      | some refusal => return (some refusal, request)
      | none => authenticate (index + 1) rest request

/-
  Run request hooks in order, up to the first that fails or
  answers the request.
-/
def requestHooks
    (index : Nat)
    (middlewares : List (Middleware ω δ))
    (request : Request δ) :
    Part ω δ (Except String (Option Answer) × Request δ) :=
  match middlewares with
  | [] => pure (.ok none, request)
  | middleware :: rest => do
      let (result, request) ←
        perform (.onRequest index request)
          (middleware.onRequest request)
      match result with
      | .ok none => requestHooks (index + 1) rest request
      | other => return (other, request)

/-
  Run response hooks in order, up to the first that fails. Each
  is given the response of the one before.
-/
def responseHooks
    (index : Nat)
    (middlewares : List (Middleware ω δ))
    (request : Request δ)
    (answer : Answer) : Part ω δ (Except String Answer) :=
  match middlewares with
  | [] => pure (.ok answer)
  | middleware :: rest => do
      match ←
        perform (.onResponse index request answer)
          (middleware.onResponse request answer) with
      | .error e => return .error e
      | .ok answer =>
          responseHooks (index + 1) rest request answer

/- The response to a failed hook. -/
def internalError : Answer :=
  .ofStatus 500

/- The response to a request, when no hook fails. -/
def handle
    (route : ResolvedRoute ω δ)
    (replacement : Option Answer)
    (request : Request δ) : Part ω δ Execution :=
  match replacement with
  | some answer => pure (.ok answer)
  | none => perform (.handle request) (route.execute request)

/-
  Run the response hooks on a response. What they make of it is
  delivered with the delivery of the route; the response to a
  failed hook is delivered plainly.
-/
def conclude
    (route : ResolvedRoute ω δ)
    (request : Request δ)
    (answer : Answer) : Part ω δ (Decision δ) := do
  match ← responseHooks 0 route.middlewares request answer with
  | .error _ => return ⟨request, internalError, .plain⟩
  | .ok answer => return ⟨request, answer, route.delivery⟩

/- Answer a request that the authenticators let in. -/
def respond
    (route : ResolvedRoute ω δ)
    (request : Request δ) :
    Part ω δ (Except DeliveryError (Decision δ)) := do
  let (hooked, request) ←
    requestHooks 0 route.middlewares request
  match hooked with
  | .error _ => return .ok ⟨request, internalError, .plain⟩
  | .ok replacement =>
      match ← handle route replacement request with
      | .error e => return .error e
      | .ok answer =>
          return .ok (← conclude route request answer)

/- Run the chain of a route. A refusal is delivered plainly. -/
def run
    (route : ResolvedRoute ω δ)
    (request : Request δ) :
    Part ω δ (Except DeliveryError (Decision δ)) := do
  let (refusal, request) ← authenticate 0 route.auths request
  match refusal with
  | some answer => return .ok ⟨request, answer, .plain⟩
  | none => respond route request

/-
  Run the chain of a route and deliver what it decides on. A
  handler that breaks off leaves nothing to deliver.
-/
def serve
    {τ : Type} [Connection τ]
    (route : ResolvedRoute ω δ)
    (request : Request δ)
    (p : Progress ω δ)
    (x : Exchange τ) : Served ω δ τ :=
  let (decided, progress) := run route request p
  match decided with
  | .error e => { result := .error e, progress, exchange := x }
  | .ok d =>
      let (result, exchange) := d.deliver x
      { result, progress, exchange }

end Chain

end Courier
