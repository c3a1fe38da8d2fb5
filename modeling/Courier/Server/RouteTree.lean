import Courier.Routing.Path
import Courier.Server.Endpoint

/-
  This file defines trees of routes. A group gives its path, its
  authenticator and its middlewares to everything in it.

  Key definitions include:
    * `RouteTree`
    * `Scope`
    * `ResolvedRoute`
    * `RouteTree.resolve`
-/

namespace Courier

/- An endpoint, or a group of routes. -/
inductive RouteTree (ω δ : Type) where
  | endpoint (endpoint : Endpoint ω δ)
  | group
      (path : String)
      (auth : Option (Authenticator ω δ))
      (middlewares : List (Middleware ω δ))
      (routes : List (RouteTree ω δ))

instance
    {ω δ : Type} : Inhabited (RouteTree ω δ) :=
  ⟨.group "" none [] []⟩

/- What the groups around a route give to it. -/
structure Scope (ω δ : Type) where
  path : String := ""
  auths : List (Authenticator ω δ) := []
  middlewares : List (Middleware ω δ) := []

/- The scope of the routes in a group. -/
def Scope.enter
    {ω δ : Type}
    (scope : Scope ω δ)
    (path : String)
    (auth : Option (Authenticator ω δ))
    (middlewares : List (Middleware ω δ)) : Scope ω δ where
  path := Routing.joinPath scope.path path
  auths := scope.auths ++ auth.toList
  middlewares := scope.middlewares ++ middlewares

/- An endpoint with all that the groups around it give. -/
structure ResolvedRoute (ω δ : Type) where
  method : Option String
  path : String
  auths : List (Authenticator ω δ)
  middlewares : List (Middleware ω δ)
  execute : Request δ → StateM ω Execution
  delivery : Delivery

/- True when a route takes requests of a method. -/
def ResolvedRoute.takes
    {ω δ : Type}
    (route : ResolvedRoute ω δ)
    (method : String) : Bool :=
  route.method.all (· = method)

namespace RouteTree

variable {ω δ : Type}

/- An endpoint in a scope. -/
def resolveEndpoint
    (codec : Codec)
    (scope : Scope ω δ)
    (e : Endpoint ω δ) : ResolvedRoute ω δ where
  method := e.method
  path := Routing.joinPath scope.path e.path
  auths := scope.auths ++ e.settings.auth.toList
  middlewares := scope.middlewares ++ e.settings.middlewares
  execute := e.execute
  delivery := e.settings.delivery codec

mutual

/- The endpoints of a tree, depth first. -/
def resolve
    (codec : Codec)
    (scope : Scope ω δ) :
    RouteTree ω δ → List (ResolvedRoute ω δ)
  | endpoint e => [resolveEndpoint codec scope e]
  | group path auth middlewares routes =>
      resolveAll codec (scope.enter path auth middlewares) routes

/- The endpoints of several trees, in order. -/
def resolveAll
    (codec : Codec)
    (scope : Scope ω δ) :
    List (RouteTree ω δ) → List (ResolvedRoute ω δ)
  | [] => []
  | route :: rest =>
      resolve codec scope route ++ resolveAll codec scope rest

end

end RouteTree

end Courier
