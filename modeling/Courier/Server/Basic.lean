import Courier.Connection.Attended
import Courier.Routing.Router
import Courier.Server.Chain

/-
  This file defines servers: they are built from a tree of
  routes and answer requests one by one.

  Key definitions include:
    * `BuildError`
    * `Server`
    * `Server.build`
    * `Server.lookup`
    * `Server.handle`
-/

namespace Courier

------------------------------------------------------------
-- Building
------------------------------------------------------------

/- Why no server can be built from a tree of routes. -/
inductive BuildError where
  | noRoutes
  | duplicateRoute (method path : String)
  | invalidRoute (path : String) (cause : Routing.PatternError)
  | conflict (path : String)
deriving DecidableEq, Repr

/- The wording of a failed build. -/
def BuildError.message : BuildError → String
  | noRoutes => "no route registered"
  | duplicateRoute method path =>
      "route " ++ method ++ " " ++ path ++ " registered twice"
  | invalidRoute path cause =>
      "invalid route " ++ path ++ ": " ++ cause.message
  | conflict path =>
      "invalid route " ++ path
        ++ ": conflict with previously registered route"

/- A server: a router with the routes of each path, in order. -/
structure Server (ρ : Type → Type) (ω δ : Type) where
  router : ρ (List (ResolvedRoute ω δ))

namespace Server

open Routing (PathRouter InsertError)

variable {ρ : Type → Type} [PathRouter ρ] {ω δ : Type}

/- The routes of each path, in order of registration. -/
abbrev PathTable (ω δ : Type) :=
  List (String × List (ResolvedRoute ω δ))

/- Add a route to the routes of its path. -/
def addRoute
    (route : ResolvedRoute ω δ) : PathTable ω δ → PathTable ω δ
  | [] => [(route.path, [route])]
  | (path, routes) :: rest =>
      if path = route.path then
        (path, routes ++ [route]) :: rest
      else
        (path, routes) :: addRoute route rest

/- The name of a method, or what stands for all of them. -/
def methodName
    (method : Option String) : String :=
  method.getD "ANY"

/-
  Sort routes by path. Fails on the first route whose method has
  been taken at its path.
-/
def tabulate
    (table : PathTable ω δ) :
    List (ResolvedRoute ω δ) → Except BuildError (PathTable ω δ)
  | [] => .ok table
  | route :: rest =>
      let known := (table.lookup route.path).getD []
      if known.any (·.method = route.method) then
        .error
          (.duplicateRoute (methodName route.method) route.path)
      else
        tabulate (addRoute route table) rest

/- The failure of a build at a path that is not taken up. -/
def refusal
    (path : String) : InsertError → BuildError
  | .conflict => .conflict path
  | .invalid cause => .invalidRoute path cause

/- Register the paths of a table. -/
def register
    (router : ρ (List (ResolvedRoute ω δ))) :
    PathTable ω δ →
      Except BuildError (ρ (List (ResolvedRoute ω δ)))
  | [] => .ok router
  | (path, routes) :: rest =>
      match PathRouter.insert? router path routes with
      | .error e => .error (refusal path e)
      | .ok router => register router rest

/-
  Build a server from the authenticator and the middlewares that
  all its routes stand in, and the routes.
-/
def build
    (ρ : Type → Type) [PathRouter ρ]
    (codec : Codec)
    (auth : Option (Authenticator ω δ))
    (middlewares : List (Middleware ω δ))
    (routes : List (RouteTree ω δ)) :
    Except BuildError (Server ρ ω δ) :=
  if routes.isEmpty then
    .error .noRoutes
  else do
    let root := RouteTree.group "" auth middlewares routes
    let table ← tabulate [] (root.resolve codec {})
    let router ← register PathRouter.empty table
    return ⟨router⟩

------------------------------------------------------------
-- Looking up
------------------------------------------------------------

/- What becomes of a request before any handler sees it. -/
inductive Lookup (ω δ : Type) where
  | found (route : ResolvedRoute ω δ) (params : PathParams)
  | notFound
  | methodNotAllowed (allowed : List String)

/- The first route that takes a method, of those of a path. -/
def choose
    (routes : List (ResolvedRoute ω δ))
    (params : PathParams)
    (method : String) : Lookup ω δ :=
  match routes.find? (·.takes method) with
  | some route => .found route params
  | none => .methodNotAllowed (routes.filterMap (·.method))

/- Look up the route of a method and a path. -/
def lookup
    (server : Server ρ ω δ)
    (method path : String) : Lookup ω δ :=
  match PathRouter.find? server.router path with
  | none => .notFound
  | some (routes, params) => choose routes ⟨params⟩ method

------------------------------------------------------------
-- Answering
------------------------------------------------------------

/- A request as it arrives; its body may break off. -/
structure Incoming where
  head : RequestHead
  body : Option ByteArray := some .empty

/- The head and the body that a client gets, and the trace. -/
structure Exchanged where
  head : ReceivedHead
  frames : Array ByteArray
  trace : Array Event

/- What a client gets when no head is ever sent. -/
def headless : ReceivedHead where
  status := 500
  headers := .empty

/- What the client gets over a channel that it attends to. -/
def exchanged
    (x : Exchange AttendedChannel) : Exchanged where
  head := x.connection.head.getD headless
  frames := x.connection.frames
  trace := x.trace

/- An exchange with a client that attends to its channel. -/
def opened : Exchange AttendedChannel :=
  .start {}

/- Deliver a response to the client. -/
def deliver
    (delivery : Delivery)
    (answer : Answer)
    (head : RequestHead) : Exchanged :=
  exchanged (delivery.deliver answer head opened).2

/- The response to a request whose body breaks off. -/
def unreadable : Answer :=
  (Response.ofStatus 400).text "invalid request body"
    "text/plain"

/- The response to a method that is not taken. -/
def notAllowed
    (allowed : List String) : Answer :=
  (Response.ofStatus 405).setHeader "Allow"
    (String.intercalate ", " allowed)

/- Serve a request over a route, to the client. -/
def runRoute
    (route : ResolvedRoute ω δ)
    (request : Request δ) : StateM ω Exchanged := fun world =>
  let served := Chain.serve route request ⟨world, []⟩ opened
  (exchanged served.exchange, served.progress.world)

/- Answer a request. -/
def handle
    (server : Server ρ ω δ)
    (incoming : Incoming) : StateM ω Exchanged :=
  let head := incoming.head
  match incoming.body with
  | none => pure (deliver .plain unreadable head)
  | some body =>
      match server.lookup head.method head.target.path with
      | .notFound => pure (deliver .plain (.ofStatus 404) head)
      | .methodNotAllowed allowed =>
          pure (deliver .plain (notAllowed allowed) head)
      | .found route params =>
          runRoute route { head, params, body }

end Server

end Courier
