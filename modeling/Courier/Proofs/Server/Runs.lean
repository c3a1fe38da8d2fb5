import Courier.Proofs.Delivery.Settled
import Courier.Proofs.Server.Visits

/-
  Every way in which a route answers a request. A run asks the
  authenticators, then runs the request hooks, the handler and
  the response hooks, and it ends with one response: a bare
  status when the request is refused or a hook fails, and
  otherwise the last response that a hook gave.

  Key definitions include:
    * `Chain.Ending`
    * `Chain.SendsBare`
    * `Chain.Ending.Sends`
    * `Chain.Concludes`
    * `Chain.Handles`
    * `Chain.Runs`

  Main statements:
    * `Chain.sendsBare_deliver`
    * `Chain.runs_serve`
-/

namespace Courier.Chain

open Exchange

variable {ω δ : Type}

------------------------------------------------------------
-- How a run ends
------------------------------------------------------------

/-
  What is sent in the end: a status alone, a response with the
  settings of an endpoint, or nothing at all.
-/
inductive Ending (δ : Type) where
  | bare (request : Request δ) (status : Nat)
  | response (decision : Decision δ)
  | nothing (cause : DeliveryError)

/- What is decided on when a run ends so. -/
def Ending.decided :
    Ending δ → Except DeliveryError (Decision δ)
  | bare request status =>
      .ok ⟨request, .ofStatus status, .plain⟩
  | response decision => .ok decision
  | nothing cause => .error cause

section Sending

variable {τ : Type} [Connection τ]

/-
  A complete response without a body is sent in one call, with
  the headers as they were.
-/
def SendsBare
    (status : Nat)
    (x : Exchange τ)
    (result : Assembly.Result)
    (x' : Exchange τ) : Prop :=
  ∃ answer event,
    (event = .head status x.headers answer ∨
        event = .full status x.headers .empty answer) ∧
      Leads x [event] x' ∧
      result = Assembly.bufferedIf answer status 0

/- What serving a request sends, for each way to end. -/
def Ending.Sends
    (x : Exchange τ)
    (served : Served ω δ τ) : Ending δ → Prop
  | bare _ status =>
      SendsBare status x served.result served.exchange
  | response decision =>
      Exchange.perform decision.deliver x =
        (served.result, served.exchange)
  | nothing cause =>
      served.result = .error cause ∧ served.exchange = x

/- No policy governs a status that is delivered plainly. -/
theorem policy?_plain
    (status : Nat)
    (q : RequestHead) :
    Delivery.plain.policy? (Response.ofStatus status : Answer)
      q = none := by
  unfold Delivery.policy?
  split
  · rfl
  · rfl

/- A status that is delivered plainly is sent alone. -/
theorem sendsBare_deliver
    (request : Request δ)
    (status : Nat)
    (x : Exchange τ) :
    let d : Decision δ := ⟨request, .ofStatus status, .plain⟩
    SendsBare status x
      (Exchange.perform d.deliver x).1
      (Exchange.perform d.deliver x).2 := by
  intro d
  have hPolicy := policy?_plain status request.head
  have hDeliver :
      Exchange.perform d.deliver x =
        Exchange.perform
          (Assembly.sendBuffered status .empty) x := by
    change Exchange.perform
      (Delivery.plain.deliver (Response.ofStatus status : Answer)
        request.head) x = _
    rw [Delivery.perform_deliver rfl]
    unfold Delivery.settled Delivery.answersFresh
    rw [hPolicy]
    rfl
  rcases Assembly.perform_sendBuffered status .empty x with
    ⟨answer, es, x', hSend, hCalls, hLeads⟩
  rw [hDeliver, hSend]
  rcases hCalls.of_empty with rfl | rfl
  · exact ⟨answer, _, Or.inl rfl, hLeads, rfl⟩
  · exact ⟨answer, _, Or.inr rfl, hLeads, rfl⟩

end Sending

------------------------------------------------------------
-- Every run
------------------------------------------------------------

section Runs

variable (route : ResolvedRoute ω δ)

/-
  The response hooks run on a response: the last response is
  sent with the settings of the route, and a hook that fails
  makes it a bare 500.
-/
inductive Concludes
    (request : Request δ) :
    Answer × ω → List (Call δ) → Ending δ → ω → Prop where
  | answered
      {given last : Answer × ω} {calls : List (Call δ)}
      (hHooks :
        Visits (responding request) 0 route.middlewares given
          calls none last) :
      Concludes request given calls
        (.response ⟨request, last.1, route.delivery⟩) last.2
  | failed
      {given last : Answer × ω} {calls : List (Call δ)}
      {message : String}
      (hHooks :
        Visits (responding request) 0 route.middlewares given
          calls (some message) last) :
      Concludes request given calls (.bare request 500) last.2

/-
  A request that was let in is answered. The request hooks run
  first. One that fails makes it a bare 500; one that gives a
  response replaces the handler, which is called once otherwise.
  The response hooks run on whatever response there is, from the
  first middleware on. A handler may break off without one.
-/
inductive Handles :
    Request δ × ω → List (Call δ) → Ending δ → ω → Prop where
  | failed
      {admitted left : Request δ × ω} {hooked : List (Call δ)}
      {message : String}
      (hHooks :
        Visits receiving 0 route.middlewares admitted hooked
          (some (.error message)) left) :
      Handles admitted hooked (.bare left.1 500) left.2
  | replaced
      {admitted left : Request δ × ω} {hooked later : List (Call δ)}
      {answer : Answer} {ending : Ending δ} {world : ω}
      (hHooks :
        Visits receiving 0 route.middlewares admitted hooked
          (some (.ok answer)) left)
      (hConcludes :
        Concludes route left.1 (answer, left.2) later ending
          world) :
      Handles admitted (hooked ++ later) ending world
  | handled
      {admitted left : Request δ × ω} {hooked later : List (Call δ)}
      {answer : Answer} {ending : Ending δ} {next world : ω}
      (hHooks :
        Visits receiving 0 route.middlewares admitted hooked
          none left)
      (hHandler :
        route.execute left.1 left.2 = (.ok answer, next))
      (hConcludes :
        Concludes route left.1 (answer, next) later ending
          world) :
      Handles admitted (hooked ++ .handle left.1 :: later)
        ending world
  | brokenOff
      {admitted left : Request δ × ω} {hooked : List (Call δ)}
      {cause : DeliveryError} {next : ω}
      (hHooks :
        Visits receiving 0 route.middlewares admitted hooked
          none left)
      (hHandler :
        route.execute left.1 left.2 = (.error cause, next)) :
      Handles admitted (hooked ++ [.handle left.1])
        (.nothing cause) next

/-
  The authenticators are asked first. The first that refuses the
  request ends the run with the status of its refusal; a request
  that all of them let in is answered as they left it.
-/
inductive Runs :
    Request δ × ω → List (Call δ) → Ending δ → ω → Prop where
  | refused
      {given left : Request δ × ω} {asked : List (Call δ)}
      {outcome : AuthOutcome} {status : Nat}
      (hAsked :
        Visits asking 0 route.auths given asked (some outcome)
          left)
      (hStatus : outcome.refusal? = some (.ofStatus status)) :
      Runs given asked (.bare left.1 status) left.2
  | admitted
      {given left : Request δ × ω} {asked later : List (Call δ)}
      {ending : Ending δ} {world : ω}
      (hAsked :
        Visits asking 0 route.auths given asked none left)
      (hHandles : Handles route left later ending world) :
      Runs given (asked ++ later) ending world

end Runs

section Steps

variable (route : ResolvedRoute ω δ) (request : Request δ)
variable (p : Progress ω δ)

/- The response hooks conclude in one of these ways. -/
theorem concludes_conclude
    (answer : Answer) :
    ∃ calls ending world d,
      Concludes route request (answer, p.world) calls ending
          world ∧
        ending.decided = .ok d ∧
        conclude route request answer p =
          (d, ⟨world, p.calls ++ calls⟩) := by
  rcases visits_responseHooks 0 route.middlewares request answer
      p with ⟨calls, stop, last, hVisits, hHooks⟩
  rw [conclude, bind_of_eq hHooks]
  cases stop with
  | none => exact ⟨calls, _, _, _, .answered hVisits, rfl, rfl⟩
  | some message =>
      exact ⟨calls, _, _, _, .failed hVisits, rfl, rfl⟩

/- A request that was let in is answered in one of these ways. -/
theorem handles_respond :
    ∃ calls ending world,
      Handles route (request, p.world) calls ending world ∧
        respond route request p =
          (ending.decided, ⟨world, p.calls ++ calls⟩) := by
  rcases visits_requestHooks 0 route.middlewares request p with
    ⟨hooked, stop, left, hVisits, hHooks⟩
  rw [respond, bind_of_eq hHooks]
  rcases stop with _ | message | answer
  · -- the handler is called
    rcases hHandler : route.execute left.1 left.2 with
      ⟨execution, next⟩
    have hHandle :
        handle route none left.1 ⟨left.2, p.calls ++ hooked⟩ =
          (execution,
            ⟨next, p.calls ++ hooked ++ [.handle left.1]⟩) :=
      perform_of_eq hHandler (.handle left.1)
    simp only [received]
    rw [bind_of_eq hHandle]
    cases execution with
    | error cause =>
        refine ⟨_, _, _, .brokenOff hVisits hHandler, ?_⟩
        rw [← List.append_assoc]
        rfl
    | ok answer =>
        rcases concludes_conclude route left.1
            ⟨next, p.calls ++ hooked ++ [.handle left.1]⟩ answer
          with ⟨later, ending, world, d, hConcludes, hDecided,
            hLast⟩
        refine
          ⟨_, ending, world,
            .handled hVisits hHandler hConcludes, ?_⟩
        have hCalls :
            p.calls ++ hooked ++ [.handle left.1] ++ later =
              p.calls ++ (hooked ++ .handle left.1 :: later) := by
          simp
        simp only
        rw [bind_of_eq hLast, hDecided, ← hCalls]
        rfl
  · -- a request hook failed
    exact ⟨hooked, _, _, .failed hVisits, rfl⟩
  · -- a request hook gave a response
    rcases concludes_conclude route left.1
        ⟨left.2, p.calls ++ hooked⟩ answer
      with ⟨later, ending, world, d, hConcludes, hDecided,
        hLast⟩
    refine
      ⟨_, ending, world, .replaced hVisits hConcludes, ?_⟩
    have hHandle :
        handle route (some answer) left.1
            ⟨left.2, p.calls ++ hooked⟩ =
          (.ok answer, ⟨left.2, p.calls ++ hooked⟩) := rfl
    simp only [received]
    rw [bind_of_eq hHandle]
    simp only
    rw [bind_of_eq hLast, hDecided, List.append_assoc]
    rfl

/- A run is one of these. -/
theorem runs_run :
    ∃ calls ending world,
      Runs route (request, p.world) calls ending world ∧
        run route request p =
          (ending.decided, ⟨world, p.calls ++ calls⟩) := by
  rcases visits_authenticate 0 route.auths request p with
    ⟨asked, stop, left, hVisits, hAsked⟩
  rw [run, bind_of_eq hAsked]
  cases stop with
  | some outcome =>
      have hRefused := isOk_eq_false_of_asking hVisits
      cases outcome with
      | ok => cases hRefused
      | unauthorized =>
          exact ⟨_, _, _, .refused hVisits rfl, rfl⟩
      | forbidden =>
          exact ⟨_, _, _, .refused hVisits rfl, rfl⟩
  | none =>
      rcases handles_respond route left.1
          ⟨left.2, p.calls ++ asked⟩ with
        ⟨later, ending, world, hHandles, hRespond⟩
      refine ⟨_, ending, world, .admitted hVisits hHandles, ?_⟩
      rw [← List.append_assoc]
      exact hRespond

end Steps

/-
  A request is served by one of these runs, and what its ending
  says is sent, once.
-/
theorem runs_serve
    {τ : Type} [Connection τ]
    (route : ResolvedRoute ω δ)
    (request : Request δ)
    (p : Progress ω δ)
    (x : Exchange τ) :
    ∃ calls ending world,
      Runs route (request, p.world) calls ending world ∧
        (serve route request p x).progress =
          ⟨world, p.calls ++ calls⟩ ∧
        ending.Sends x (serve route request p x) := by
  rcases runs_run route request p with
    ⟨calls, ending, world, hRuns, hRun⟩
  refine ⟨calls, ending, world, hRuns, ?_⟩
  unfold serve
  rw [hRun]
  cases ending with
  | bare request status =>
      exact ⟨rfl, sendsBare_deliver request status x⟩
  | response decision => exact ⟨rfl, rfl⟩
  | nothing cause => exact ⟨rfl, rfl, rfl⟩

end Courier.Chain
