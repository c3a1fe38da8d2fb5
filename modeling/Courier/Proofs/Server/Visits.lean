import Courier.Server.Chain

/-
  The three parts of a chain that go through a list: the
  authenticators, the request hooks and the response hooks. Each
  calls the members in order, every one with what the one before
  left, up to the first that stops. One relation says so, and
  each part is an instance of it.

  Key definitions include:
    * `Chain.Stage`
    * `Chain.Visits`
    * `Chain.asking`
    * `Chain.receiving`
    * `Chain.received`
    * `Chain.responding`

  Main statements:
    * `Chain.Visits.unique`
    * `Chain.Visits.exists_call_eq`
    * `Chain.visits_authenticate`
    * `Chain.visits_requestHooks`
    * `Chain.visits_responseHooks`
-/

namespace Courier.Chain

variable {ω δ ι κ ρ : Type}

------------------------------------------------------------
-- Visiting the members of a list
------------------------------------------------------------

/-
  What a part of a chain does with each of its members: how the
  call is written down, and what it makes of the state that it
  is given. It may come with a reason to stop.
-/
structure Stage (δ ι κ ρ : Type) where
  call : Nat → κ → Call δ
  visit : ι → κ → Option ρ × κ

/-
  Members are called in order, the first of them with the number
  `index`, and each with the state that the one before left.
  The first that stops is the last one that is called.
-/
inductive Visits
    (stage : Stage δ ι κ ρ) :
    Nat → List ι → κ → List (Call δ) → Option ρ → κ → Prop where
  | done
      {index : Nat} {given : κ} :
      Visits stage index [] given [] none given
  | stopped
      {index : Nat} {member : ι} {rest : List ι}
      {given left : κ} {reason : ρ}
      (hVisit : stage.visit member given = (some reason, left)) :
      Visits stage index (member :: rest) given
        [stage.call index given] (some reason) left
  | passed
      {index : Nat} {member : ι} {rest : List ι}
      {given next left : κ} {calls : List (Call δ)}
      {stop : Option ρ}
      (hVisit : stage.visit member given = (none, next))
      (hRest :
        Visits stage (index + 1) rest next calls stop left) :
      Visits stage index (member :: rest) given
        (stage.call index given :: calls) stop left

namespace Visits

variable {stage : Stage δ ι κ ρ} {index : Nat} {members : List ι}
variable {given left : κ} {calls : List (Call δ)}
variable {stop : Option ρ}

/- There is one way to visit members. -/
theorem unique
    (hVisits : Visits stage index members given calls stop left)
    {calls' : List (Call δ)}
    {stop' : Option ρ}
    {left' : κ}
    (hOther :
      Visits stage index members given calls' stop' left') :
    calls = calls' ∧ stop = stop' ∧ left = left' := by
  induction hVisits generalizing calls' stop' left' with
  | done =>
      cases hOther
      exact ⟨rfl, rfl, rfl⟩
  | stopped hVisit =>
      cases hOther with
      | stopped hVisit' => simp_all
      | passed hVisit' => simp_all
  | passed hVisit hRest ih =>
      cases hOther with
      | stopped hVisit' => simp_all
      | passed hVisit' hRest' =>
          rw [hVisit, Prod.mk.injEq] at hVisit'
          rw [← hVisit'.2] at hRest'
          rcases ih hRest' with ⟨hCalls, hStop, hLeft⟩
          exact ⟨by rw [hCalls], hStop, hLeft⟩

/- Only calls of the stage are made. -/
theorem exists_call_eq
    (hVisits : Visits stage index members given calls stop left)
    {c : Call δ}
    (hCall : c ∈ calls) :
    ∃ number seen, c = stage.call number seen := by
  induction hVisits with
  | done => cases hCall
  | stopped _ => exact ⟨_, _, List.mem_singleton.mp hCall⟩
  | passed _ _ ih =>
      rcases List.mem_cons.mp hCall with hFirst | hRest
      · exact ⟨_, _, hFirst⟩
      · exact ih hRest

/- A reason to stop is that of a member. -/
theorem exists_visit_eq
    {reason : ρ}
    (hVisits :
      Visits stage index members given calls (some reason)
        left) :
    ∃ member ∈ members,
      ∃ seen, stage.visit member seen = (some reason, left) := by
  generalize hStop : some reason = stop at hVisits
  induction hVisits with
  | done => cases hStop
  | stopped hVisit =>
      cases hStop
      exact ⟨_, List.mem_cons_self, _, hVisit⟩
  | passed _ _ ih =>
      rcases ih hStop with ⟨member, hMember, seen, hVisit⟩
      exact
        ⟨member, List.mem_cons_of_mem _ hMember, seen, hVisit⟩

end Visits

------------------------------------------------------------
-- The parts of a chain
------------------------------------------------------------

/- Asking authenticators, up to the first that refuses. -/
def asking :
    Stage δ (Authenticator ω δ) (Request δ × ω) AuthOutcome where
  call index seen := .authenticate index seen.1
  visit auth seen :=
    let ((outcome, request), world) := auth seen.1 seen.2
    (if outcome.isOk then none else some outcome,
      request, world)

/-
  Running request hooks, up to the first that fails or answers
  the request.
-/
def receiving :
    Stage δ (Middleware ω δ) (Request δ × ω)
      (Except String Answer) where
  call index seen := .onRequest index seen.1
  visit middleware seen :=
    let ((result, request), world) :=
      middleware.onRequest seen.1 seen.2
    match result with
    | .ok none => (none, request, world)
    | .ok (some answer) => (some (.ok answer), request, world)
    | .error e => (some (.error e), request, world)

/- What request hooks come to, by the reason that they stopped. -/
def received :
    Option (Except String Answer) →
      Except String (Option Answer)
  | none => .ok none
  | some (.ok answer) => .ok (some answer)
  | some (.error e) => .error e

/-
  Running response hooks for a request, up to the first that
  fails.
-/
def responding
    (request : Request δ) :
    Stage δ (Middleware ω δ) (Answer × ω) String where
  call index seen := .onResponse index request seen.1
  visit middleware seen :=
    match middleware.onResponse request seen.1 seen.2 with
    | (.ok answer, world) => (none, answer, world)
    | (.error e, world) => (some e, seen.1, world)

------------------------------------------------------------
-- The loops
------------------------------------------------------------

/- What follows an act goes on from what the act left. -/
theorem bind_of_eq
    {α β : Type}
    {act : Part ω δ α}
    {p p' : Progress ω δ}
    {v : α}
    (hAct : act p = (v, p'))
    (next : α → Part ω δ β) :
    (act >>= next) p = next v p' := by
  change (act p >>= fun (v, p') => next v p' : Id _) = _
  rw [hAct]
  rfl

/- A call is written down at the end. -/
theorem perform_of_eq
    {α : Type}
    {act : StateM ω α}
    {p : Progress ω δ}
    {v : α}
    {world : ω}
    (hAct : act p.world = (v, world))
    (call : Call δ) :
    perform call act p = (v, ⟨world, p.calls ++ [call]⟩) := by
  unfold perform
  rw [hAct]

/- A request goes on exactly when there is no refusal. -/
theorem refusal?_eq_none_iff
    (outcome : AuthOutcome) :
    outcome.refusal? = none ↔ outcome.isOk := by
  cases outcome <;>
    simp [AuthOutcome.refusal?, AuthOutcome.isOk]

/- Only an outcome that is not ok ends the asking. -/
theorem isOk_eq_false_of_asking
    {index : Nat}
    {auths : List (Authenticator ω δ)}
    {given left : Request δ × ω}
    {calls : List (Call δ)}
    {outcome : AuthOutcome}
    (hVisits :
      Visits asking index auths given calls (some outcome)
        left) :
    outcome.isOk = false := by
  rcases hVisits.exists_visit_eq with ⟨auth, _, seen, hVisit⟩
  rcases hAsk : auth seen.1 seen.2 with ⟨⟨said, next⟩, world⟩
  simp only [asking, hAsk] at hVisit
  cases hOk : said.isOk with
  | true => simp [hOk] at hVisit
  | false =>
      rw [hOk, if_neg Bool.false_ne_true, Prod.mk.injEq,
        Option.some.injEq] at hVisit
      rw [← hVisit.1, hOk]

/- Authenticators are asked in turn. -/
theorem visits_authenticate
    (index : Nat)
    (auths : List (Authenticator ω δ))
    (request : Request δ)
    (p : Progress ω δ) :
    ∃ calls stop left,
      Visits asking index auths (request, p.world) calls stop
          left ∧
        authenticate index auths request p =
          ((stop.bind AuthOutcome.refusal?, left.1),
            ⟨left.2, p.calls ++ calls⟩) := by
  induction auths generalizing index request p with
  | nil =>
      refine ⟨[], none, _, .done, ?_⟩
      rw [List.append_nil]
      rfl
  | cons auth rest ih =>
      rcases hAuth : auth request p.world with
        ⟨⟨outcome, next⟩, world⟩
      have hCall :=
        perform_of_eq hAuth (.authenticate index request)
      rw [authenticate, bind_of_eq hCall]
      cases hRefusal : outcome.refusal? with
      | none =>
          have hOk := (refusal?_eq_none_iff outcome).mp hRefusal
          rcases ih (index + 1) next
              ⟨world, p.calls ++ [.authenticate index request]⟩
            with ⟨calls, stop, left, hVisits, hRest⟩
          refine ⟨_, stop, left, .passed ?_ hVisits, ?_⟩
          · simp [asking, hAuth, hOk]
          · simpa [asking, hRefusal] using hRest
      | some refusal =>
          have hOk : ¬ outcome.isOk := by
            rw [← refusal?_eq_none_iff, hRefusal]
            simp
          refine
            ⟨_, some outcome, (next, world), .stopped ?_, ?_⟩
          · simp [asking, hAuth, hOk]
          · simp only [hRefusal, Option.bind_some]
            rfl

/- Request hooks are run in turn. -/
theorem visits_requestHooks
    (index : Nat)
    (middlewares : List (Middleware ω δ))
    (request : Request δ)
    (p : Progress ω δ) :
    ∃ calls stop left,
      Visits receiving index middlewares (request, p.world)
          calls stop left ∧
        requestHooks index middlewares request p =
          ((received stop, left.1),
            ⟨left.2, p.calls ++ calls⟩) := by
  induction middlewares generalizing index request p with
  | nil =>
      refine ⟨[], none, _, .done, ?_⟩
      rw [List.append_nil]
      rfl
  | cons middleware rest ih =>
      rcases hHook : middleware.onRequest request p.world with
        ⟨⟨result, next⟩, world⟩
      have hCall :=
        perform_of_eq hHook (.onRequest index request)
      rw [requestHooks, bind_of_eq hCall]
      rcases result with e | _ | answer
      · refine
          ⟨_, some (.error e), (next, world), .stopped ?_, ?_⟩
        · simp [receiving, hHook]
        · rfl
      · rcases ih (index + 1) next
            ⟨world, p.calls ++ [.onRequest index request]⟩
          with ⟨calls, stop, left, hVisits, hRest⟩
        refine ⟨_, stop, left, .passed ?_ hVisits, ?_⟩
        · simp [receiving, hHook]
        · simpa [receiving] using hRest
      · refine
          ⟨_, some (.ok answer), (next, world), .stopped ?_, ?_⟩
        · simp [receiving, hHook]
        · rfl

/- Response hooks are run in turn. -/
theorem visits_responseHooks
    (index : Nat)
    (middlewares : List (Middleware ω δ))
    (request : Request δ)
    (answer : Answer)
    (p : Progress ω δ) :
    ∃ calls stop left,
      Visits (responding request) index middlewares
          (answer, p.world) calls stop left ∧
        responseHooks index middlewares request answer p =
          (match stop with
            | none => .ok left.1
            | some e => .error e,
            ⟨left.2, p.calls ++ calls⟩) := by
  induction middlewares generalizing index answer p with
  | nil =>
      refine ⟨[], none, _, .done, ?_⟩
      rw [List.append_nil]
      rfl
  | cons middleware rest ih =>
      rcases hHook : middleware.onResponse request answer p.world
        with ⟨result, world⟩
      have hCall :=
        perform_of_eq hHook (.onResponse index request answer)
      rw [responseHooks, bind_of_eq hCall]
      cases result with
      | error e =>
          refine ⟨_, some e, (answer, world), .stopped ?_, ?_⟩
          · simp [responding, hHook]
          · rfl
      | ok next =>
          rcases ih (index + 1) next
              ⟨world,
                p.calls ++ [.onResponse index request answer]⟩
            with ⟨calls, stop, left, hVisits, hRest⟩
          refine ⟨_, stop, left, .passed ?_ hVisits, ?_⟩
          · simp [responding, hHook]
          · simpa [responding] using hRest

end Courier.Chain
