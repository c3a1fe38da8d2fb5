import Courier.Binding.Request
import Courier.Compression.Standard
import Courier.Delivery.Basic
import Courier.Server.Hooks

/-
  This file defines endpoints: a method, a path, a handler and
  the settings that its responses are delivered with.

  Key definitions include:
    * `EndpointSettings`
    * `Execution`
    * `Endpoint`
    * `Endpoint.bound`
-/

namespace Courier

/- How the responses of an endpoint are delivered. -/
structure EndpointSettings (ω δ : Type) where
  auth : Option (Authenticator ω δ) := none
  middlewares : List (Middleware ω δ) := []
  encoding : Encoding := .auto
  cachePolicy : Option CachePolicy := none
  settings : Option StreamSettings := none

/- The settings as those of a delivery. -/
def EndpointSettings.delivery
    {ω δ : Type}
    (s : EndpointSettings ω δ)
    (codec : Codec) : Delivery where
  cachePolicy := s.cachePolicy
  encoding := s.encoding
  settings := s.settings
  codec := codec

/- The delivery of a response that no endpoint gave. -/
def Delivery.plain : Delivery where
  codec := .standard

/-
  What a handler gives: a response, or an error after which
  nothing is sent.
-/
abbrev Execution :=
  Except DeliveryError Answer

/- An endpoint; without a method it takes every method. -/
structure Endpoint (ω δ : Type) where
  method : Option String
  path : String
  settings : EndpointSettings ω δ := {}
  execute : Request δ → StateM ω Execution

/-
  An endpoint whose handler is given what its schemas ask for.
  The body is bound before the parameters, and a request that
  cannot be bound is answered without the handler.
-/
def Endpoint.bound
    {ω δ : Type}
    (method : Option String)
    (path : String)
    (settings : EndpointSettings ω δ)
    (f : Formats)
    (params body : Schema)
    (handler : Request δ → Bound → Bound → StateM ω Answer) :
    Endpoint ω δ where
  method := method
  path := path
  settings := settings
  execute request :=
    match request.bindBody f body with
    | .error e => pure (.ok e.toResponse)
    | .ok body =>
        match request.bindParams f params with
        | .error e => pure (.ok e.toResponse)
        | .ok params =>
            return .ok (← handler request params body)

end Courier
