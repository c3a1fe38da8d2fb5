import Courier.Proofs.Server.Runs

/-
  Routes with nothing around their handler that a client could
  tell. Their authenticators let every request in and their
  middlewares neither answer nor fail nor replace a response;
  all of them may remember what they saw, and may make out who
  is calling. Such a route delivers what its handler gives.

  Key definitions include:
    * `Request.AsksAlike`
    * `Authenticator.LetsIn`
    * `Middleware.IsSilent`
    * `ResolvedRoute.IsTransparent`
    * `Execution.deliver`

  Main statements:
    * `Chain.Visits.of_passing`
    * `Chain.exists_run_eq`
    * `Chain.exists_exchange_serve_eq`
-/

namespace Courier

variable {ω δ : Type}

------------------------------------------------------------
-- What passes
------------------------------------------------------------

/- A request with the head and the parameters of another. -/
structure Request.AsksAlike
    (q given : Request δ) : Prop where
  head_eq : q.head = given.head
  params_eq : q.params = given.params

/- The authenticator refuses nobody. -/
def Authenticator.LetsIn
    (auth : Authenticator ω δ) : Prop :=
  ∀ request world,
    (auth request world).1.1.isOk ∧
      (auth request world).1.2.AsksAlike request

/- The middleware answers nothing and keeps every response. -/
structure Middleware.IsSilent
    (m : Middleware ω δ) : Prop where
  asks_on :
    ∀ request world,
      (m.onRequest request world).1.1 = .ok none ∧
        (m.onRequest request world).1.2.AsksAlike request
  keeps :
    ∀ request answer world,
      (m.onResponse request answer world).1 = .ok answer

/- Nothing around the handler of a route changes an answer. -/
structure ResolvedRoute.IsTransparent
    (route : ResolvedRoute ω δ) : Prop where
  auths_let_in : ∀ auth ∈ route.auths, Authenticator.LetsIn auth
  middlewares_silent : ∀ m ∈ route.middlewares, m.IsSilent

namespace Request.AsksAlike

theorem refl
    (q : Request δ) :
    q.AsksAlike q :=
  ⟨rfl, rfl⟩

theorem trans
    {q seen given : Request δ}
    (hLast : q.AsksAlike seen)
    (hFirst : seen.AsksAlike given) :
    q.AsksAlike given where
  head_eq := hLast.head_eq.trans hFirst.head_eq
  params_eq := hLast.params_eq.trans hFirst.params_eq

end Request.AsksAlike

/- The middleware that does nothing is silent. -/
theorem Middleware.isSilent_passive :
    (passive : Middleware ω δ).IsSilent where
  asks_on request _ := ⟨rfl, .refl request⟩
  keeps _ _ _ := rfl

namespace Chain

------------------------------------------------------------
-- Visits
------------------------------------------------------------

/-
  When every member passes and keeps what holds of the states,
  no one stops the visit and it holds of what is left.
-/
theorem Visits.of_passing
    {ι κ ρ : Type}
    {stage : Stage δ ι κ ρ}
    {index : Nat}
    {members : List ι}
    {given left : κ}
    {calls : List (Call δ)}
    {stop : Option ρ}
    (hVisits : Visits stage index members given calls stop left)
    {P : κ → Prop}
    (hPasses :
      ∀ member ∈ members, ∀ seen,
        P seen →
          ∃ next,
            stage.visit member seen = (none, next) ∧ P next)
    (hGiven : P given) :
    stop = none ∧ P left := by
  induction hVisits with
  | done => exact ⟨rfl, hGiven⟩
  | stopped hVisit =>
      rcases hPasses _ List.mem_cons_self _ hGiven with
        ⟨next, hNext, _⟩
      rw [hVisit] at hNext
      cases hNext
  | passed hVisit _ ih =>
      rcases hPasses _ List.mem_cons_self _ hGiven with
        ⟨next, hNext, hKept⟩
      rw [hVisit] at hNext
      cases hNext
      exact ih
        (fun m hm => hPasses m (List.mem_cons_of_mem _ hm))
        hKept

section Stages

variable {index : Nat} {calls : List (Call δ)}
variable {given left : Request δ × ω}

/- Authenticators that let everybody in ask for the same. -/
theorem Visits.of_lets_in
    {auths : List (Authenticator ω δ)}
    {stop : Option AuthOutcome}
    (hVisits : Visits asking index auths given calls stop left)
    (hAuths : ∀ auth ∈ auths, Authenticator.LetsIn auth) :
    stop = none ∧ left.1.AsksAlike given.1 := by
  refine hVisits.of_passing
    (P := fun seen => seen.1.AsksAlike given.1) ?_ (.refl _)
  intro auth hMember seen hSeen
  have hAuth := hAuths auth hMember seen.1 seen.2
  rcases hAsk : auth seen.1 seen.2 with ⟨⟨outcome, next⟩, world⟩
  rw [hAsk] at hAuth
  refine ⟨(next, world), ?_, hAuth.2.trans hSeen⟩
  simp [asking, hAsk, hAuth.1]

/- Silent middlewares do not answer a request. -/
theorem Visits.of_silent
    {middlewares : List (Middleware ω δ)}
    {stop : Option (Except String Answer)}
    (hVisits :
      Visits receiving index middlewares given calls stop left)
    (hSilent : ∀ m ∈ middlewares, m.IsSilent) :
    stop = none ∧ left.1.AsksAlike given.1 := by
  refine hVisits.of_passing
    (P := fun seen => seen.1.AsksAlike given.1) ?_ (.refl _)
  intro m hMember seen hSeen
  have hAsks := (hSilent m hMember).asks_on seen.1 seen.2
  rcases hHook : m.onRequest seen.1 seen.2 with
    ⟨⟨result, next⟩, world⟩
  rw [hHook] at hAsks
  rcases hAsks with ⟨rfl, hAlike⟩
  refine ⟨(next, world), ?_, hAlike.trans hSeen⟩
  simp [receiving, hHook]

/- Nor do they replace a response. -/
theorem Visits.keeps_of_silent
    {request : Request δ}
    {middlewares : List (Middleware ω δ)}
    {stop : Option String}
    {answered last : Answer × ω}
    (hVisits :
      Visits (responding request) index middlewares answered
        calls stop last)
    (hSilent : ∀ m ∈ middlewares, m.IsSilent) :
    stop = none ∧ last.1 = answered.1 := by
  refine hVisits.of_passing
    (P := fun seen => seen.1 = answered.1) ?_ rfl
  intro m hMember seen hSeen
  have hKept := (hSilent m hMember).keeps request seen.1 seen.2
  rcases hHook : m.onResponse request seen.1 seen.2 with
    ⟨result, world⟩
  rw [hHook] at hKept
  cases hKept
  refine ⟨(seen.1, world), ?_, hSeen⟩
  simp [responding, hHook]

end Stages

------------------------------------------------------------
-- Runs
------------------------------------------------------------

variable {route : ResolvedRoute ω δ}

/- What is decided on when the handler gives a response. -/
def decision
    (route : ResolvedRoute ω δ)
    (request : Request δ)
    (answer : Answer) : Decision δ :=
  ⟨request, answer, route.delivery⟩

/- Silent middlewares conclude with the response itself. -/
theorem Concludes.ending_eq
    {request : Request δ}
    {answered : Answer × ω}
    {calls : List (Call δ)}
    {ending : Ending δ}
    {world : ω}
    (hConcludes :
      Concludes route request answered calls ending world)
    (hSilent : ∀ m ∈ route.middlewares, m.IsSilent) :
    ending = .response (decision route request answered.1) := by
  cases hConcludes with
  | answered hHooks =>
      rw [decision, (hHooks.keeps_of_silent hSilent).2]
  | failed hHooks =>
      cases (hHooks.keeps_of_silent hSilent).1

/- Between silent middlewares the handler decides. -/
theorem Handles.exists_decided_eq
    {admitted : Request δ × ω}
    {calls : List (Call δ)}
    {ending : Ending δ}
    {world : ω}
    (hHandles : Handles route admitted calls ending world)
    (hSilent : ∀ m ∈ route.middlewares, m.IsSilent) :
    ∃ seen : Request δ × ω,
      seen.1.AsksAlike admitted.1 ∧
        ending.decided =
          (route.execute seen.1 seen.2).1.map
            (decision route seen.1) := by
  cases hHandles with
  | failed hHooks => cases (hHooks.of_silent hSilent).1
  | replaced hHooks _ => cases (hHooks.of_silent hSilent).1
  | handled hHooks hHandler hConcludes =>
      refine ⟨_, (hHooks.of_silent hSilent).2, ?_⟩
      rw [hConcludes.ending_eq hSilent, hHandler]
      rfl
  | brokenOff hHooks hHandler =>
      refine ⟨_, (hHooks.of_silent hSilent).2, ?_⟩
      rw [hHandler]
      rfl

variable (hRoute : route.IsTransparent)
variable (request : Request δ) (p : Progress ω δ)

include hRoute

/- A transparent route decides on what its handler gives. -/
theorem exists_run_eq :
    ∃ (seen : Request δ × ω) (p' : Progress ω δ),
      seen.1.AsksAlike request ∧
        run route request p =
          ((route.execute seen.1 seen.2).1.map
            (decision route seen.1), p') := by
  rcases runs_run route request p with
    ⟨calls, ending, world, hRuns, hRun⟩
  rw [hRun]
  cases hRuns with
  | refused hAsked _ =>
      cases (hAsked.of_lets_in hRoute.auths_let_in).1
  | admitted hAsked hHandles =>
      have hAdmitted :=
        (hAsked.of_lets_in hRoute.auths_let_in).2
      rcases hHandles.exists_decided_eq
          hRoute.middlewares_silent with
        ⟨seen, hSeen, hDecided⟩
      rw [hDecided]
      exact ⟨seen, _, hSeen.trans hAdmitted, rfl⟩

end Chain

/- The exchange behind the delivery of what a handler gives. -/
def Execution.deliver
    {τ : Type} [Connection τ]
    (d : Delivery)
    (q : RequestHead)
    (x : Exchange τ) : Execution → Exchange τ
  | .error _ => x
  | .ok answer => (Exchange.perform (d.deliver answer q) x).2

namespace Chain

/- A transparent route delivers what its handler gives. -/
theorem exists_exchange_serve_eq
    {τ : Type} [Connection τ]
    {route : ResolvedRoute ω δ}
    (hRoute : route.IsTransparent)
    (request : Request δ)
    (p : Progress ω δ)
    (x : Exchange τ) :
    ∃ seen : Request δ × ω,
      seen.1.AsksAlike request ∧
        (serve route request p x).exchange =
          Execution.deliver route.delivery request.head x
            (route.execute seen.1 seen.2).1 := by
  rcases exists_run_eq hRoute request p with
    ⟨seen, p', hSeen, hRun⟩
  refine ⟨seen, hSeen, ?_⟩
  unfold serve
  rw [hRun]
  cases (route.execute seen.1 seen.2).1 with
  | error cause => rfl
  | ok answer =>
      rw [← hSeen.head_eq]
      rfl

end Chain

end Courier
