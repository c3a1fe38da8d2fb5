import Mathlib.Control.Monad.Basic
import Courier.Proofs.Channel.Attended
import Courier.Proofs.Delivery.HandlerHeaders
import Courier.Proofs.Header.FieldText
import Courier.Proofs.Server.Table

/-
  How a server dispatches a request. Its router picks a path
  among those of the routes, and the first route of this path
  that takes the method is run. If there is none the answer says
  which methods would be taken.

  Key definitions include:
    * `Server.Matches`
    * `Server.Picks`
    * `Server.methodsAt`
    * `Server.Disallows`
    * `Server.Dispatches`
    * `Server.IsMostSpecific`

  Main statements:
    * `Server.deliver_plain`
    * `Server.picks_of_groups`
    * `Server.disallows_of_none`
    * `Server.dispatches_of_picks`
    * `Server.build_dispatches`
    * `Server.build_dispatches_matched`
-/

namespace Courier

open Exchange Routing

------------------------------------------------------------
-- Plain answers
------------------------------------------------------------

/- Changing headers leaves the connection as it is. -/
theorem Exchange.connection_edited
    {τ : Type}
    (edits : List HeaderEdit)
    (x : Exchange τ) :
    (edited edits x).connection = x.connection := by
  induction edits generalizing x with
  | nil => rfl
  | cons change rest ih => exact ih (editHeaders change x)

namespace Server

variable {ω δ : Type}

/- The client of a fresh channel gets a head that is sent alone. -/
theorem exchanged_sendBuffered
    {x : Exchange AttendedChannel}
    (hFresh : x.connection = {})
    (status : Nat) :
    let sent :=
      perform (Assembly.sendBuffered status .empty) x
    (exchanged sent.2).head = ⟨status, x.headers⟩ ∧
      (exchanged sent.2).frames = #[] := by
  intro sent
  have hSent :
      sent.2 = (perform (sendFull status .empty) x).2 := by
    simp only [sent]
    rw [Assembly.sendBuffered, perform_bind]
    split <;> rfl
  have hServed :
      sent.2.connection =
        AttendedChannel.served ⟨status, x.headers⟩ .empty := by
    have hCall :=
      AttendedChannel.sendFull_untouched status x.headers .empty
    rw [hSent]
    rcases x with ⟨_, headers, trace⟩
    cases hFresh
    exact congrArg Prod.snd hCall
  rw [exchanged, hServed]
  exact ⟨rfl, rfl⟩

/-
  An answer without a body that no policy governs is delivered
  plainly as one head, with the headers that it was given.
-/
theorem deliver_plain
    {r : Answer}
    (hHandler : r.handler = none)
    (hCookies : r.cookies = [])
    (hPayload : r.payload = .empty)
    (hStatus : ¬ r.status < 300)
    (q : RequestHead) :
    let e := deliver .plain r q
    e.head.status = r.status ∧
      e.frames = #[] ∧
      ∀ name,
        name.toLower ∉
            Delivery.writtenNames.map String.toLower →
          e.head.headers.getAll name =
            if Header.isToken name then
              (r.headers.getAll name).filter Header.isFieldText
            else
              [] := by
  intro e
  let d := Delivery.plain
  let given := d.fillEncoding (d.fillSettings r)
  have hSettled : d.settled r q = given := by
    unfold Delivery.settled Delivery.policy?
    simp [hStatus, given]
  have hGiven : given.handler = none := hHandler
  have hDated : Dated given.cookies := by
    change Dated r.cookies
    simp [Dated, hCookies]
  have hEmpty :
      (Assembly.encoded d.codec given q).payload = .empty := by
    rw [Assembly.payload_encoded]
    · exact hPayload
    · intro bytes hBytes
      cases hPayload.symm.trans hBytes
  let x : Exchange AttendedChannel :=
    edited (Assembly.carryEdits d.codec given q) opened
  have hRun :
      (perform (d.deliver r q) opened).2 =
        (perform (Assembly.sendBuffered r.status .empty) x).2 := by
    rw [Delivery.perform_deliver hHandler, hSettled]
    simp only
    rw [Assembly.perform_send_eq hGiven hDated,
      Assembly.sendPayload, hEmpty, Assembly.status_encoded]
    rfl
  have hFresh : x.connection = {} := connection_edited _ _
  have hSent := exchanged_sendBuffered hFresh r.status
  have hAnswer :
      e = exchanged
        (perform (Assembly.sendBuffered r.status .empty) x).2 :=
    congrArg exchanged hRun
  have hHeaders :
      x.headers =
        applyEdits .empty
          (Assembly.carryEdits d.codec (d.settled r q) q) := by
    rw [hSettled, (leads_edited _ _).headers_eq,
      headersAfter_map_edit]
    rfl
  rw [hAnswer, hSent.1, hHeaders]
  refine ⟨rfl, hSent.2, ?_⟩
  intro name hName
  have hNone : EditsOnly Ranged.rangedNames [] := by
    simp [EditsOnly]
  have hHead := Delivery.getAll_head
    (r := r) (d := d) (q := q) hNone hName
  rwa [applyEdits_nil] at hHead

/- A method that is not taken is answered with those that are. -/
theorem deliver_notAllowed
    {methods : List String}
    (hText :
      Header.isFieldText (String.intercalate ", " methods))
    (q : RequestHead) :
    let e := deliver .plain (notAllowed methods) q
    e.head.status = 405 ∧
      e.frames = #[] ∧
      e.head.headers.getAll "Allow" =
        [String.intercalate ", " methods] := by
  intro e
  have hError : ¬ (notAllowed methods).status < 300 :=
    show ¬ 405 < 300 by decide
  rcases deliver_plain rfl rfl rfl hError q with
    ⟨hStatus, hFrames, hHeaders⟩
  have hAllow :
      (notAllowed methods).headers.getAll "Allow" =
        [String.intercalate ", " methods] := by
    unfold notAllowed Response.setHeader
    rw [HeaderList.getAll_set]
    exact if_pos rfl
  refine ⟨hStatus, hFrames, ?_⟩
  rw [hHeaders "Allow" (by decide +kernel),
    if_pos (by decide), hAllow]
  simp [hText]

------------------------------------------------------------
-- Picking a path
------------------------------------------------------------

variable {ρ : Type → Type} [PathRouter ρ]

/- The path of a route, as a pattern, fits a request path. -/
def Matches
    (route : ResolvedRoute ω δ)
    (path : String) : Prop :=
  ∃ pattern params,
    PathRouter.FitsPath route.path path pattern params

/-
  What the router of a server picks for a request path: nothing,
  or the path of some routes, all of which it then finds, with
  the parameters that the request path has for its pattern.
-/
inductive Picks
    (server : Server ρ ω δ)
    (routes : List (ResolvedRoute ω δ))
    (path : String) :
    Option (String × PathParams) → Prop where
  | nothing
      (hFind : PathRouter.find? server.router path = none) :
      Picks server routes path none
  | path
      {chosen : String} {params : PathParams}
      {pattern : Pattern}
      (hFits :
        PathRouter.FitsPath chosen path pattern params.entries)
      (hRoutes : routesAt routes chosen ≠ [])
      (hFind :
        PathRouter.find? server.router path =
          some (routesAt routes chosen, params.entries)) :
      Picks server routes path (some (chosen, params))

/- The router picks something for every path. -/
theorem picks_of_groups
    (hInserted : PathRouter.FindsInserted ρ)
    {server : Server ρ ω δ}
    {routes : List (ResolvedRoute ω δ)}
    {table : PathTable ω δ}
    (hGroups : Groups table routes)
    (hHolds : PathRouter.Holds server.router table)
    (path : String) :
    ∃ picked, server.Picks routes path picked := by
  cases hFind : PathRouter.find? server.router path with
  | none => exact ⟨none, .nothing hFind⟩
  | some found =>
      rcases found with ⟨listed, params⟩
      rcases hInserted.of_find? hHolds hFind with
        ⟨chosen, pattern, hMem, hFits⟩
      rcases hGroups.of_mem hMem with ⟨rfl, hRoutes⟩
      exact ⟨some (chosen, ⟨params⟩),
        .path hFits hRoutes hFind⟩

/- It picks nothing when no route matches. -/
theorem Picks.eq_none
    {server : Server ρ ω δ}
    {routes : List (ResolvedRoute ω δ)}
    {path : String}
    {picked : Option (String × PathParams)}
    (hPicks : server.Picks routes path picked)
    (hNone : ∀ route ∈ routes, ¬ Matches route path) :
    picked = none := by
  cases hPicks with
  | nothing => rfl
  | path hFits hRoutes =>
      rcases List.exists_mem_of_ne_nil _ hRoutes with
        ⟨route, hRoute⟩
      rcases List.mem_filter.mp hRoute with ⟨hMem, hPath⟩
      rw [← of_decide_eq_true hPath] at hFits
      exact absurd ⟨_, _, hFits⟩ (hNone route hMem)

------------------------------------------------------------
-- Answers
------------------------------------------------------------

section Answers

variable {server : Server ρ ω δ} {head : RequestHead}

/- A request whose path leads nowhere. -/
theorem handle_of_nothing
    (hFind : PathRouter.find? server.router head.target.path = none)
    (body : ByteArray)
    (world : ω) :
    server.handle ⟨head, some body⟩ world =
      (deliver .plain (.ofStatus 404) head, world) := by
  simp only [handle, lookup, hFind]
  rfl

variable {listed : List (ResolvedRoute ω δ)}
variable {params : List (String × String)}

/- A request that some route of its path takes. -/
theorem handle_of_taken
    (hFind :
      PathRouter.find? server.router head.target.path =
        some (listed, params))
    {route : ResolvedRoute ω δ}
    (hRoute :
      listed.find? (·.takes head.method) = some route)
    (body : ByteArray)
    (world : ω) :
    server.handle ⟨head, some body⟩ world =
      runRoute route { head, params := ⟨params⟩, body }
        world := by
  simp only [handle, lookup, hFind, choose, hRoute]

/- A request that no route of its path takes. -/
theorem handle_of_not_taken
    (hFind :
      PathRouter.find? server.router head.target.path =
        some (listed, params))
    (hNone : listed.find? (·.takes head.method) = none)
    (body : ByteArray)
    (world : ω) :
    server.handle ⟨head, some body⟩ world =
      (deliver .plain (notAllowed (listed.filterMap (·.method)))
        head, world) := by
  simp only [handle, lookup, hFind, choose, hNone]
  rfl

end Answers

/- The methods that the routes of a path ask for, in order. -/
def methodsAt
    (routes : List (ResolvedRoute ω δ))
    (path : String) : List String :=
  (routesAt routes path).filterMap (·.method)

/-
  A request is disallowed at a path: the answer lists the methods
  of its routes, each once. The method of the request is not
  among them, and with any of them it would be dispatched.
-/
structure Disallows
    (server : Server ρ ω δ)
    (routes : List (ResolvedRoute ω δ))
    (chosen : String)
    (params : PathParams)
    (head : RequestHead)
    (body : ByteArray)
    (answer : Exchanged) : Prop where
  status_eq : answer.head.status = 405
  frames_eq : answer.frames = #[]
  allow_eq :
    answer.head.headers.getAll "Allow" =
      [String.intercalate ", " (methodsAt routes chosen)]
  methods_nodup : (methodsAt routes chosen).Nodup
  methods_ne_nil : methodsAt routes chosen ≠ []
  method_not_mem : head.method ∉ methodsAt routes chosen
  repeated :
    ∀ method ∈ methodsAt routes chosen,
      ∃ route ∈ routesAt routes chosen,
        ∀ world,
          server.handle ⟨{ head with method }, some body⟩ world =
            runRoute route
              { head := { head with method }, params, body }
              world

/-
  What becomes of a request with what was picked for its path:
  nothing is found, the first route of the path that takes the
  method is run, or there is none and the request is disallowed.
  Where no route is run the world stays as it is.
-/
inductive Dispatches
    (server : Server ρ ω δ)
    (routes : List (ResolvedRoute ω δ))
    (head : RequestHead)
    (body : ByteArray)
    (world : ω) :
    Option (String × PathParams) → Exchanged × ω → Prop where
  | notFound
      {answer : Exchanged}
      (hStatus : answer.head.status = 404)
      (hFrames : answer.frames = #[]) :
      Dispatches server routes head body world none
        (answer, world)
  | run
      {chosen : String} {params : PathParams}
      {route : ResolvedRoute ω δ}
      (hFirst :
        (routesAt routes chosen).find? (·.takes head.method) =
          some route) :
      Dispatches server routes head body world
        (some (chosen, params))
        (runRoute route { head, params, body } world)
  | disallowed
      {chosen : String} {params : PathParams}
      {answer : Exchanged}
      (hNone :
        (routesAt routes chosen).find? (·.takes head.method) =
          none)
      (hAnswer :
        server.Disallows routes chosen params head body
          answer) :
      Dispatches server routes head body world
        (some (chosen, params)) (answer, world)

section Methods

variable {routes : List (ResolvedRoute ω δ)} {chosen : String}

/- A route takes its own method. -/
theorem takes_of_method_eq
    {route : ResolvedRoute ω δ}
    {method : String}
    (hMethod : route.method = some method) :
    route.takes method := by
  simp [ResolvedRoute.takes, hMethod]

/- Whoever does not take every method asks for one. -/
theorem exists_method_of_not_takes
    {route : ResolvedRoute ω δ}
    {method : String}
    (hTakes : ¬ route.takes method) :
    ∃ other, route.method = some other := by
  cases hMethod : route.method with
  | none => simp [ResolvedRoute.takes, hMethod] at hTakes
  | some other => exact ⟨other, rfl⟩

/- Distinct routes of one path ask for distinct methods. -/
theorem nodup_methodsAt
    (hDistinct : Distinct routes)
    (chosen : String) :
    (methodsAt routes chosen).Nodup := by
  unfold methodsAt routesAt List.Nodup
  rw [List.pairwise_filterMap, List.pairwise_filter]
  refine hDistinct.imp ?_
  intro a b hTwins hA hB m hM n hN hEq
  refine hTwins ⟨?_, ?_⟩
  · exact (of_decide_eq_true hA).trans (of_decide_eq_true hB).symm
  · rw [hM, hN, hEq]

/- Each of these methods is that of a route of the path. -/
theorem exists_of_mem_methodsAt
    {method : String}
    (hMem : method ∈ methodsAt routes chosen) :
    ∃ route ∈ routesAt routes chosen,
      route.method = some method :=
  List.mem_filterMap.mp hMem

/- What is not taken by any route is none of their methods. -/
theorem not_mem_methodsAt
    {method : String}
    (hNone :
      (routesAt routes chosen).find? (·.takes method) = none) :
    method ∉ methodsAt routes chosen := by
  intro hMem
  rcases exists_of_mem_methodsAt hMem with
    ⟨route, hRoute, hMethod⟩
  exact List.find?_eq_none.mp hNone route hRoute
    (takes_of_method_eq hMethod)

/- But each of them asks for some method. -/
theorem methodsAt_ne_nil
    {method : String}
    (hRoutes : routesAt routes chosen ≠ [])
    (hNone :
      (routesAt routes chosen).find? (·.takes method) = none) :
    methodsAt routes chosen ≠ [] := by
  rcases List.exists_mem_of_ne_nil _ hRoutes with
    ⟨route, hRoute⟩
  rcases exists_method_of_not_takes
      (List.find?_eq_none.mp hNone route hRoute) with
    ⟨other, hMethod⟩
  exact List.ne_nil_of_mem
    (List.mem_filterMap.mpr ⟨route, hRoute, hMethod⟩)

end Methods

section Dispatch

variable {server : Server ρ ω δ} {routes : List (ResolvedRoute ω δ)}

/-
  The methods of all routes are made of token characters, as
  methods of requests are.
-/
def NamesMethods
    (routes : List (ResolvedRoute ω δ)) : Prop :=
  ∀ route ∈ routes, ∀ method ∈ route.method,
    method.toList.all Header.isTokenChar

instance
    (routes : List (ResolvedRoute ω δ)) :
    Decidable (NamesMethods routes) :=
  inferInstanceAs
    (Decidable (∀ route ∈ routes, ∀ method ∈ route.method, _))

/- A list of methods can be sent. -/
theorem isFieldText_methodsAt
    (hMethods : NamesMethods routes)
    (chosen : String) :
    Header.isFieldText
      (String.intercalate ", " (methodsAt routes chosen)) := by
  refine Header.isFieldText_intercalate (by decide) ?_
  intro method hMem
  rcases exists_of_mem_methodsAt hMem with
    ⟨route, hRoute, hMethod⟩
  have hToken := hMethods route (List.mem_filter.mp hRoute).1
    method hMethod
  rw [List.all_eq_true] at hToken
  exact List.all_eq_true.mpr fun c hc =>
    Header.isFieldChar_of_isTokenChar (hToken c hc)

/- The answer to a method that no route of a path takes. -/
theorem disallows_of_none
    (hDistinct : Distinct routes)
    (hMethods : NamesMethods routes)
    {head : RequestHead}
    {chosen : String} {params : PathParams}
    (hRoutes : routesAt routes chosen ≠ [])
    (hFind :
      PathRouter.find? server.router head.target.path =
        some (routesAt routes chosen, params.entries))
    (hNone :
      (routesAt routes chosen).find? (·.takes head.method) =
        none)
    (body : ByteArray) :
    server.Disallows routes chosen params head body
      (deliver .plain (notAllowed (methodsAt routes chosen))
        head) := by
  rcases deliver_notAllowed
      (isFieldText_methodsAt hMethods chosen) head with
    ⟨hStatus, hFrames, hAllow⟩
  refine ⟨hStatus, hFrames, hAllow,
    nodup_methodsAt hDistinct chosen,
    methodsAt_ne_nil hRoutes hNone, not_mem_methodsAt hNone, ?_⟩
  intro method hMem
  rcases exists_of_mem_methodsAt hMem with
    ⟨route, hRoute, hMethod⟩
  have hSome :
      ((routesAt routes chosen).find? (·.takes method)).isSome :=
    List.find?_isSome.mpr
      ⟨route, hRoute, takes_of_method_eq hMethod⟩
  rcases Option.isSome_iff_exists.mp hSome with
    ⟨first, hFirst⟩
  refine ⟨first, List.mem_of_find?_eq_some hFirst, ?_⟩
  intro world
  exact @handle_of_taken _ _ _ _ server { head with method } _ _
    hFind _ hFirst body world

/- Every request with a body is dispatched in one of these ways. -/
theorem dispatches_of_picks
    (hDistinct : Distinct routes)
    (hMethods : NamesMethods routes)
    {head : RequestHead}
    {picked : Option (String × PathParams)}
    (hPicks : server.Picks routes head.target.path picked)
    (body : ByteArray)
    (world : ω) :
    Dispatches server routes head body world picked
      (server.handle ⟨head, some body⟩ world) := by
  cases hPicks with
  | nothing hFind =>
      have hError : ¬ (.ofStatus 404 : Answer).status < 300 :=
        show ¬ 404 < 300 by decide
      have hPlain := deliver_plain rfl rfl rfl hError head
      rw [handle_of_nothing hFind]
      exact .notFound hPlain.1 hPlain.2.1
  | @path chosen params _ _ hRoutes hFind =>
      cases hTaken :
          (routesAt routes chosen).find?
            (·.takes head.method) with
      | some route =>
          rw [handle_of_taken hFind hTaken]
          exact .run hTaken
      | none =>
          rw [handle_of_not_taken hFind hTaken]
          exact .disallowed hTaken
            (disallows_of_none hDistinct hMethods hRoutes hFind
              hTaken body)

end Dispatch

/-
  A server dispatches each request to the first of the routes of
  one path that takes its method, and says which methods would
  be taken when there is none. It is built from distinct routes
  only: twins stop the build, wherever they stand.
-/
theorem build_dispatches
    (hInserted : PathRouter.FindsInserted ρ)
    {codec : Codec} {auth : Option (Authenticator ω δ)}
    {middlewares : List (Middleware ω δ)}
    {routes : List (RouteTree ω δ)}
    (hMethods :
      NamesMethods (registered codec auth middlewares routes)) :
    let all := registered codec auth middlewares routes
    (∀ server,
        build ρ codec auth middlewares routes = .ok server →
          Distinct all ∧
            ∀ head body,
              ∃ picked,
                server.Picks all head.target.path picked ∧
                  ((∀ route ∈ all,
                      ¬ Matches route head.target.path) →
                    picked = none) ∧
                  ∀ world,
                    Dispatches server all head body world picked
                      (server.handle ⟨head, some body⟩ world)) ∧
      (¬ Distinct all →
        ∃ before route after,
          all = before ++ route :: after ∧
            (∃ earlier ∈ before, earlier.Twins route) ∧
            build ρ codec auth middlewares routes =
              .error
                (.duplicateRoute (methodName route.method)
                  route.path)) := by
  intro all
  refine ⟨?_, build_of_twins⟩
  intro server hBuild
  rcases groups_of_build hBuild with
    ⟨hDistinct, table, hGroups, hHolds⟩
  refine ⟨hDistinct, ?_⟩
  intro head body
  rcases picks_of_groups hInserted hGroups hHolds
      head.target.path with
    ⟨picked, hPicks⟩
  exact ⟨picked, hPicks, hPicks.eq_none,
    dispatches_of_picks hDistinct hMethods hPicks body⟩

/- An endpoint that counts the requests it is given. -/
def counting
    (method : Option String)
    (path : String) : RouteTree Nat Unit :=
  .endpoint
    { method
      path
      execute := fun _ count => (.ok (.ofStatus 200), count + 1) }

/- A new user is posted; any other can be got or changed. -/
def users : List (RouteTree Nat Unit) :=
  [ counting (some "POST") "/users/new",
    .group "/users" none []
      [ counting (some "GET") "{id}",
        counting (some "PUT") "/{id}" ] ]

omit [PathRouter ρ] in
/- What is checked of a server holds of one that is built. -/
theorem exists_of_any
    {built : Except BuildError (Server ρ ω δ)}
    {check : Server ρ ω δ → Bool}
    (hCheck : built.toOption.any check) :
    ∃ server, built = .ok server ∧ check server := by
  cases built with
  | error e => cases hCheck
  | ok server => exact ⟨server, rfl, hCheck⟩

/- A server of users, and what becomes of users added twice. -/
theorem build_dispatches_of_users :
    let all := registered .standard none [] users
    let twice := registered .standard none [] (users ++ users)
    let head := RequestHead.ofParts "GET" "/users/7" []
    PathRouter.FindsInserted Router ∧
      (∃ server,
        build Router .standard none [] users = .ok server ∧
          Distinct all ∧
            ∃ picked,
              server.Picks all "/users/7" picked ∧
                ∀ world,
                  Dispatches server all head .empty world picked
                    (server.handle ⟨head, some .empty⟩ world)) ∧
      ∃ before route after,
        twice = before ++ route :: after ∧
          (∃ earlier ∈ before, earlier.Twins route) ∧
          build Router .standard none [] (users ++ users) =
            .error
              (.duplicateRoute (methodName route.method)
                route.path) := by
  intro all twice head
  have hInserted := Router.findsInserted
  have hMethods : NamesMethods all := by decide +kernel
  have hMethodsTwice : NamesMethods twice := by decide +kernel
  have hTwins : ¬ Distinct twice := by decide +kernel
  have hTrue :
      (build Router .standard none [] users).toOption.any
        fun _ => true := by
    decide +kernel
  rcases exists_of_any hTrue with ⟨server, hBuild, _⟩
  rcases (build_dispatches hInserted hMethods).1 server hBuild
    with ⟨hDistinct, hDispatches⟩
  rcases hDispatches head .empty with ⟨picked, hPicks, _, hRun⟩
  exact ⟨hInserted,
    ⟨server, hBuild, hDistinct, picked, hPicks, hRun⟩,
    (build_dispatches hInserted hMethodsTwice).2 hTwins⟩

------------------------------------------------------------
-- The most specific path
------------------------------------------------------------

/- No route that matches a request path comes before a pattern. -/
def IsMostSpecific
    (routes : List (ResolvedRoute ω δ))
    (path : String)
    (pattern : Pattern) : Prop :=
  ∀ route ∈ routes, ∀ other params,
    Pattern.ofPath route.path = .ok other →
      Pattern.Fits other path.toList params →
        Pattern.precedes other pattern = false

/- The router of users is specific. -/
theorem exists_users :
    ∃ server,
      build Router .standard none [] users = .ok server ∧
        ∀ path,
          PathRouter.IsSpecificAt server.router path := by
  have hCheck :
      (build Router .standard none [] users).toOption.any fun server =>
        server.router.routes.all fun q => q.1.fillsSegments := by
    decide +kernel
  rcases exists_of_any hCheck with ⟨server, hBuild, hFills⟩
  exact ⟨server, hBuild, fun path =>
    Router.isSpecificAt_of_patterns
      (Router.isSpecificAt_of_fillsSegments
        (List.all_eq_true.mp hFills) path)⟩

/- Any name below that of users can be got. -/
theorem exists_route_of_user
    {name : List Char}
    (hName : name ≠ [])
    (hSlash : '/' ∉ name) :
    ∃ route ∈ registered .standard none [] users,
      Matches route (String.ofList ("/users/".toList ++ name)) ∧
        route.takes "GET" := by
  let pattern : Pattern :=
    "/users/".toList.map .lit ++ [.param "id"]
  have hPattern : Pattern.ofPath "/users/{id}" = .ok pattern := by
    decide +kernel
  have hFits :
      Pattern.Fits pattern
        (String.ofList ("/users/".toList ++ name)).toList
        [("id", String.ofList name)] := by
    have hParam :
        Pattern.Fits [.param "id"] (name ++ [])
          [("id", String.ofList name)] :=
      .param hName hSlash .nil
    rw [List.append_nil] at hParam
    rw [String.toList_ofList]
    exact hParam.literal _
  exact ⟨_, List.mem_cons_of_mem _ List.mem_cons_self,
    ⟨pattern, _, hPattern, hFits⟩, rfl⟩

/-
  A request that some route matches is dispatched by the routes
  of one path, provided that the router is specific: a path with
  a pattern that fits, and that no other which fits comes
  before. The first of its routes that takes the method is run.
  There is no way on to a less specific path, so without such a
  route the request is disallowed.
-/
theorem build_dispatches_matched
    {codec : Codec} {auth : Option (Authenticator ω δ)}
    {middlewares : List (Middleware ω δ)}
    {routes : List (RouteTree ω δ)}
    {server : Server ρ ω δ}
    (hBuild :
      build ρ codec auth middlewares routes = .ok server)
    (hMethods :
      NamesMethods (registered codec auth middlewares routes))
    {head : RequestHead}
    (hSpecific :
      PathRouter.IsSpecificAt server.router head.target.path)
    (hMatched :
      ∃ route ∈ registered codec auth middlewares routes,
        Matches route head.target.path)
    (body : ByteArray) :
    let all := registered codec auth middlewares routes
    ∃ chosen params pattern,
      Pattern.ofPath chosen = .ok pattern ∧
        Pattern.Fits pattern head.target.path.toList
          params.entries ∧
        IsMostSpecific all head.target.path pattern ∧
        routesAt all chosen ≠ [] ∧
        ∀ world,
          Dispatches server all head body world
            (some (chosen, params))
            (server.handle ⟨head, some body⟩ world) := by
  intro all
  rcases groups_of_build hBuild with
    ⟨hDistinct, table, hGroups, hHolds⟩
  rcases hMatched with ⟨route, hRoute, hMatches⟩
  rcases hSpecific table hHolds _ (hGroups.mem_of_mem hRoute)
      hMatches with
    ⟨chosen, pattern, listed, taken, hFind, hMem, hFits, hFirst⟩
  rcases hGroups.of_mem hMem with ⟨rfl, hRoutes⟩
  refine ⟨chosen, ⟨taken⟩, pattern, hFits.1, hFits.2, ?_,
    hRoutes, ?_⟩
  · intro other hOther p ps hReads hFitsOther
    exact hFirst _ (hGroups.mem_of_mem hOther) p ps
      ⟨hReads, hFitsOther⟩
  · exact dispatches_of_picks hDistinct hMethods
      (.path hFits hRoutes hFind) body

/- Asking for a user by name is such a request. -/
theorem build_dispatches_matched_of_user :
    let all := registered .standard none [] users
    let head := RequestHead.ofParts "GET" "/users/7" []
    NamesMethods all ∧
      (∃ route ∈ all, Matches route "/users/7") ∧
      ∃ server,
        build Router .standard none [] users = .ok server ∧
          PathRouter.IsSpecificAt server.router "/users/7" ∧
          ∃ chosen params pattern,
            Pattern.ofPath chosen = .ok pattern ∧
              Pattern.Fits pattern "/users/7".toList
                params.entries ∧
              IsMostSpecific all "/users/7" pattern ∧
              routesAt all chosen ≠ [] ∧
              ∀ world,
                Dispatches server all head .empty world
                  (some (chosen, params))
                  (server.handle ⟨head, some .empty⟩ world) := by
  intro all head
  have hMethods : NamesMethods all := by decide +kernel
  have hMatched : ∃ route ∈ all, Matches route "/users/7" := by
    rcases exists_route_of_user (List.cons_ne_nil '7' [])
        (by decide) with ⟨route, hRoute, hMatches, _⟩
    exact ⟨route, hRoute, hMatches⟩
  rcases exists_users with ⟨server, hBuild, hSpecific⟩
  exact ⟨hMethods, hMatched, server, hBuild,
    hSpecific "/users/7",
    build_dispatches_matched hBuild hMethods
      (hSpecific head.target.path) hMatched .empty⟩

/-
  A user may be named like the path where new ones are posted.
  Getting this user is disallowed, though there is a route for
  it: the path of new users is more specific.
-/
theorem user_named_new_disallowed :
    let head := RequestHead.ofParts "GET" "/users/new" []
    (∃ route ∈ registered .standard none [] users,
        Matches route head.target.path ∧
          route.takes head.method) ∧
      ∃ server,
        build Router .standard none [] users = .ok server ∧
          PathRouter.IsSpecificAt server.router
            head.target.path ∧
          let served := server.handle ⟨head, some .empty⟩ 0
          served.1.head.status = 405 ∧
            served.1.head.headers.getAll "Allow" = ["POST"] ∧
            served.2 = 0 := by
  intro head
  refine ⟨exists_route_of_user (List.cons_ne_nil 'n' ['e', 'w'])
    (by decide), ?_⟩
  rcases exists_users with ⟨server, hBuild, hSpecific⟩
  refine ⟨server, hBuild, hSpecific _, ?_⟩
  have hFound :
      (build Router .standard none [] users).toOption.all fun server =>
        (PathRouter.find? server.router head.target.path).any fun found =>
          (found.1.find? (·.takes "GET")).isNone &&
            found.1.filterMap (·.method) = ["POST"] := by
    decide +kernel
  rw [hBuild] at hFound
  rcases (Option.any_eq_true _ _).mp hFound with
    ⟨found, hFind, hListed⟩
  rw [Bool.and_eq_true, Option.isNone_iff_eq_none,
    decide_eq_true_eq] at hListed
  intro served
  have hServed :
      served = (deliver .plain (notAllowed ["POST"]) head, 0) := by
    rw [← hListed.2]
    exact handle_of_not_taken hFind hListed.1 .empty 0
  rcases @deliver_notAllowed ["POST"] (by decide) head with
    ⟨hStatus, _, hAllow⟩
  rw [hServed]
  exact ⟨hStatus, hAllow, rfl⟩

end Server

end Courier
