import Courier.Proofs.Exchange.OpenConnection
import Courier.Proofs.Server.Runs

/-
  What a route does with a request, over any connection. The
  authenticators stand before everything else: a request that
  one of them refuses reaches nothing behind them, and what is
  sent then does not depend on what is there. A request that
  they let in goes through the hooks and the handler, and one
  response is sent.

  Key definitions include:
    * `Call.IsAuthenticate`
    * `Chain.IsRefusal`
    * `Chain.Refuses`

  Main statements:
    * `Chain.Handles.not_isAuthenticate`
    * `Chain.run_eq_of_refused`
    * `Chain.serve_gated`
    * `Chain.serve_admitted`
-/

namespace Courier

/- The call is that of an authenticator. -/
def Call.IsAuthenticate
    {δ : Type} : Call δ → Prop
  | .authenticate _ _ => True
  | .onRequest _ _ | .handle _ | .onResponse _ _ _ => False

namespace Chain

variable {ω δ : Type} {route : ResolvedRoute ω δ}

------------------------------------------------------------
-- Calls behind the authenticators
------------------------------------------------------------

/- Asking authenticators calls nothing else. -/
theorem isAuthenticate_of_asking
    {index : Nat}
    {auths : List (Authenticator ω δ)}
    {given left : Request δ × ω}
    {asked : List (Call δ)}
    {stop : Option AuthOutcome}
    (hVisits : Visits asking index auths given asked stop left) :
    ∀ c ∈ asked, c.IsAuthenticate := by
  intro c hc
  rcases hVisits.exists_call_eq hc with ⟨_, _, rfl⟩
  exact trivial

/- Running request hooks asks no authenticator. -/
theorem not_isAuthenticate_of_receiving
    {index : Nat}
    {middlewares : List (Middleware ω δ)}
    {given left : Request δ × ω}
    {hooked : List (Call δ)}
    {stop : Option (Except String Answer)}
    (hVisits :
      Visits receiving index middlewares given hooked stop
        left) :
    ∀ c ∈ hooked, ¬ c.IsAuthenticate := by
  intro c hc
  rcases hVisits.exists_call_eq hc with ⟨_, _, rfl⟩
  exact id

/- Concluding asks no authenticator. -/
theorem Concludes.not_isAuthenticate
    {request : Request δ}
    {given : Answer × ω}
    {calls : List (Call δ)}
    {ending : Ending δ}
    {world : ω}
    (hConcludes :
      Concludes route request given calls ending world) :
    ∀ c ∈ calls, ¬ c.IsAuthenticate := by
  intro c hc
  cases hConcludes with
  | answered hHooks =>
      rcases hHooks.exists_call_eq hc with ⟨_, _, rfl⟩
      exact id
  | failed hHooks =>
      rcases hHooks.exists_call_eq hc with ⟨_, _, rfl⟩
      exact id

/- Answering a request asks no authenticator. -/
theorem Handles.not_isAuthenticate
    {admitted : Request δ × ω}
    {calls : List (Call δ)}
    {ending : Ending δ}
    {world : ω}
    (hHandles : Handles route admitted calls ending world) :
    ∀ c ∈ calls, ¬ c.IsAuthenticate := by
  intro c hc
  cases hHandles with
  | failed hHooks =>
      exact not_isAuthenticate_of_receiving hHooks c hc
  | replaced hHooks hConcludes =>
      rcases List.mem_append.mp hc with hHooked | hLater
      · exact not_isAuthenticate_of_receiving hHooks c hHooked
      · exact hConcludes.not_isAuthenticate c hLater
  | handled hHooks _ hConcludes =>
      rcases List.mem_append.mp hc with hHooked | hRest
      · exact not_isAuthenticate_of_receiving hHooks c hHooked
      · rcases List.mem_cons.mp hRest with rfl | hLater
        · exact id
        · exact hConcludes.not_isAuthenticate c hLater
  | brokenOff hHooks _ =>
      rcases List.mem_append.mp hc with hHooked | hLast
      · exact not_isAuthenticate_of_receiving hHooks c hHooked
      · rw [List.mem_singleton.mp hLast]
        exact id

------------------------------------------------------------
-- The gate
------------------------------------------------------------

variable {request : Request δ} {p : Progress ω δ}

/- Routes with the same authenticators refuse alike. -/
theorem run_eq_of_refused
    {other : ResolvedRoute ω δ}
    (hAuths : other.auths = route.auths)
    {asked : List (Call δ)}
    {outcome : AuthOutcome}
    {left : Request δ × ω}
    (hAsked :
      Visits asking 0 route.auths (request, p.world) asked
        (some outcome) left) :
    run other request p = run route request p := by
  rcases visits_authenticate 0 route.auths request p with
    ⟨calls, stop, last, hVisits, hRun⟩
  have hStop := (hVisits.unique hAsked).2.1
  unfold run
  rw [hAuths, bind_of_eq hRun, bind_of_eq hRun, hStop]
  have hRefused := isOk_eq_false_of_asking hAsked
  cases outcome with
  | ok => cases hRefused
  | unauthorized => rfl
  | forbidden => rfl

/- The status that a request is refused with. -/
inductive IsRefusal : AuthOutcome → Nat → Prop where
  | unauthorized : IsRefusal .unauthorized 401
  | forbidden : IsRefusal .forbidden 403

variable {τ : Type} [Connection τ]

/-
  What becomes of a request that an authenticator refused, after
  these calls: there are no others, a status is sent alone, and
  every route with the same authenticators does the same.
-/
structure Refuses
    (route : ResolvedRoute ω δ)
    (request : Request δ)
    (p : Progress ω δ)
    (x : Exchange τ)
    (asked : List (Call δ))
    (outcome : AuthOutcome)
    (world : ω) : Prop where
  progress_eq :
    (serve route request p x).progress =
      ⟨world, p.calls ++ asked⟩
  sends_bare :
    ∃ status,
      IsRefusal outcome status ∧
        SendsBare status x (serve route request p x).result
          (serve route request p x).exchange
  alike :
    ∀ other : ResolvedRoute ω δ,
      other.auths = route.auths →
        serve other request p x = serve route request p x

/-
  The authenticators of a route are asked in order, each about
  the request as the one before left it, up to the first that
  refuses. Only when all of them let the request in, anything
  else is called.
-/
theorem serve_gated
    (route : ResolvedRoute ω δ)
    (request : Request δ)
    (p : Progress ω δ)
    (x : Exchange τ) :
    ∃ asked stop left later,
      Visits asking 0 route.auths (request, p.world) asked stop
          left ∧
        (serve route request p x).progress.calls =
          p.calls ++ asked ++ later ∧
        (∀ c ∈ asked, c.IsAuthenticate) ∧
        (∀ c ∈ later, ¬ c.IsAuthenticate) ∧
        (later ≠ [] → stop = none) ∧
        ∀ outcome,
          stop = some outcome →
            Refuses route request p x asked outcome left.2 := by
  rcases runs_serve route request p x with
    ⟨calls, ending, world, hRuns, hProgress, hSends⟩
  cases hRuns with
  | @refused left _ outcome status hAsked hStatus =>
      refine ⟨calls, some outcome, left, [], hAsked, ?_,
        isAuthenticate_of_asking hAsked, by simp, by simp, ?_⟩
      · rw [hProgress, List.append_nil]
      · intro outcome' hOutcome
        cases hOutcome
        refine ⟨hProgress, ⟨status, ?_, hSends⟩, ?_⟩
        · cases outcome with
          | ok => cases hStatus
          | unauthorized => cases hStatus; exact .unauthorized
          | forbidden => cases hStatus; exact .forbidden
        · intro other hAuths
          unfold serve
          rw [run_eq_of_refused hAuths hAsked]
  | @admitted left asked later _ _ hAsked hHandles =>
      refine ⟨asked, none, left, later, hAsked, ?_,
        isAuthenticate_of_asking hAsked,
        hHandles.not_isAuthenticate, fun _ => rfl, ?_⟩
      · rw [hProgress, List.append_assoc]
      · intro outcome hOutcome
        cases hOutcome

------------------------------------------------------------
-- Behind the gate
------------------------------------------------------------

/- Nothing is sent only when the handler broke off. -/
theorem Handles.exists_of_nothing
    {admitted : Request δ × ω}
    {calls : List (Call δ)}
    {cause : DeliveryError}
    {world : ω}
    (hHandles :
      Handles route admitted calls (.nothing cause) world) :
    ∃ seen : Request δ × ω,
      (route.execute seen.1 seen.2).1 = .error cause := by
  cases hHandles with
  | replaced _ hConcludes => cases hConcludes
  | handled _ _ hConcludes => cases hConcludes
  | @brokenOff left _ _ _ _ hHandler =>
      exact ⟨left, by rw [hHandler]⟩

/-
  A request that all authenticators let in is answered: by the
  request hooks up to the first that fails or answers, by the
  handler unless one did, and by the response hooks from the
  first middleware on. What this ends with is sent once; nothing
  is sent only when the handler broke off.
-/
theorem serve_admitted
    {asked : List (Call δ)}
    {admitted : Request δ × ω}
    (hAsked :
      Visits asking 0 route.auths (request, p.world) asked none
        admitted)
    (x : Exchange τ) :
    let served := serve route request p x
    ∃ calls ending world,
      Handles route admitted calls ending world ∧
        served.progress = ⟨world, p.calls ++ asked ++ calls⟩ ∧
        ending.Sends x served ∧
        ∀ cause,
          ending = .nothing cause →
            ∃ seen : Request δ × ω,
              (route.execute seen.1 seen.2).1 = .error cause := by
  intro served
  rcases runs_serve route request p x with
    ⟨calls, ending, world, hRuns, hProgress, hSends⟩
  cases hRuns with
  | refused hOther _ =>
      have hStop := (hOther.unique hAsked).2.1
      cases hStop
  | @admitted left asked' later _ _ hOther hHandles =>
      rcases hOther.unique hAsked with ⟨hCalls, _, hLeft⟩
      rw [hLeft] at hHandles
      rw [hCalls, ← List.append_assoc] at hProgress
      refine
        ⟨later, ending, world, hHandles, hProgress, hSends, ?_⟩
      rintro cause rfl
      exact hHandles.exists_of_nothing

/- An authenticator that makes out who is calling. -/
def recognising : Authenticator Nat String := fun request world =>
  ((.ok, request.attach "ann"), world + 1)

/- A middleware that signs every response. -/
def signing : Middleware Nat String where
  onRequest request world := ((.ok none, request), world + 1)
  onResponse _ answer world :=
    (.ok (answer.setHeader "X-Signed" "yes"), world + 1)

/- A middleware that answers itself and fails afterwards. -/
def failing : Middleware Nat String where
  onRequest request world :=
    ((.ok (some (.ofStatus 202)), request), world + 1)
  onResponse _ _ world := (.error "down", world + 1)

/- A route behind both middlewares, which counts its calls. -/
def counting : ResolvedRoute Nat String where
  method := none
  path := "/"
  auths := [recognising]
  middlewares := [signing, failing]
  execute _ world := (.ok (.ofStatus 200), world + 1)
  delivery := .plain

theorem serve_admitted_of_counting :
    let request : Request String := { head := .ofParts "GET" "/" [] }
    let asked : List (Call String) := [.authenticate 0 request]
    let admitted : Request String × Nat :=
      (request.attach "ann", 1)
    let x : Exchange OpenConnection := .start .fresh
    let served := serve counting request ⟨0, []⟩ x
    Visits asking 0 counting.auths (request, 0) asked none
        admitted ∧
      ∃ calls ending world,
        Handles counting admitted calls ending world ∧
          served.progress = ⟨world, asked ++ calls⟩ ∧
          ending.Sends x served ∧
          ∀ cause,
            ending = .nothing cause →
              ∃ seen : Request String × Nat,
                (counting.execute seen.1 seen.2).1 =
                  .error cause := by
  intro request asked admitted x served
  have hAsked :
      Visits asking 0 counting.auths (request, 0) asked none
        admitted :=
    .passed rfl .done
  exact ⟨hAsked, serve_admitted hAsked x⟩

end Chain

end Courier
