import Courier.Compression.Standard
import Courier.Proofs.Delivery.Chunks
import Courier.Proofs.Delivery.Messages
import Courier.Proofs.Exchange.OpenConnection

/-
  Which heads carry cache headers. A policy writes them for a
  response that the handler made a success; when the range of
  the request is refused afterwards, the head has the status of
  an error and keeps them. This is the only way in which a
  policy makes an error cacheable.

  Key definitions include:
    * `Ranged.Refuses`
    * `Assembly.Refuses`
    * `WireHeaders.CarriesCache`

  Main statements:
    * `Ranged.Sends.exists_head`
    * `Assembly.Pays.exists_head`
    * `Delivery.cacheable_error_head_iff`
-/

namespace Courier

open Exchange Trace

------------------------------------------------------------
-- Refusals
------------------------------------------------------------

namespace Ranged

/-
  The request is answered with an error, from what its header
  asks for, from the chunk size, or because the source is
  exhausted before the part.
-/
def Refuses
    {σ : Type} [ByteSource σ]
    (source : σ)
    (chunkSize : Nat)
    (rangeHeader : Option String) : Prop :=
  match
    verdict (ByteSource.length source) chunkSize rangeHeader
  with
  | .part start _ _ => (ByteSource.skip start source).1 = true
  | .noContent => False
  | .several | .malformed | .zeroChunk | .beyond
  | .unsatisfiable => True

/- The status of an error that the engine answers with. -/
def refusalStatuses : List Nat :=
  [400, 416, 500]

theorem le_of_mem_refusalStatuses
    {status : Nat}
    (hStatus : status ∈ refusalStatuses) :
    400 ≤ status := by
  simp only [refusalStatuses, List.mem_cons, List.not_mem_nil,
    or_false] at hStatus
  omega

/- The names that streaming a source may change. -/
def rangedNames : List String :=
  streamNames ++ ["Content-Length", "Content-Range"]
    ++ bodyHeaders

/- Announcing a part changes no other names. -/
theorem editsOnly_announced
    (contentType : Option String)
    (settings : StreamSettings)
    (start stop length : Nat) :
    EditsOnly rangedNames
      (streamEdits contentType settings
        ++ partEdits start stop length) :=
  (editsOnly_announceEdits contentType settings start stop
    length).mono (List.subset_append_left _ _)

/- A refusal changes no other names. -/
theorem editsOnly_refused
    {edits : List HeaderEdit}
    (hEdits : EditsOnly rangedNames edits)
    (length : Option Nat) :
    EditsOnly rangedNames (edits ++ refusalEdits length) :=
  hEdits.append
    ((editsOnly_refusalEdits length).mono
      (List.subset_append_right _ _))

/- A response without a body changes no other names. -/
theorem editsOnly_bodyless
    {length status : Nat}
    {contentType : Option String}
    {settings : StreamSettings}
    {v : Verdict}
    {b : Bodyless}
    (hBody :
      bodyless? length status contentType settings v =
        some b) :
    EditsOnly rangedNames b.edits := by
  have hNone : EditsOnly rangedNames [] := by
    simp [EditsOnly]
  have hStream :
      EditsOnly rangedNames
        (streamEdits contentType settings) :=
    (editsOnly_streamEdits contentType settings).mono
      (by simp [rangedNames])
  cases v with
  | several =>
      cases hBody
      exact editsOnly_refused hNone _
  | malformed =>
      cases hBody
      exact editsOnly_refused hNone _
  | zeroChunk =>
      cases hBody
      exact hNone
  | noContent =>
      cases hBody
      refine hStream.append ?_
      simp [EditsOnly, HeaderEdit.name, rangedNames]
  | beyond =>
      cases hBody
      exact editsOnly_refused hStream _
  | unsatisfiable =>
      cases hBody
      exact editsOnly_refused hStream _
  | part start stop asked => cases hBody

/- A refusal has the status of an error, and only a refusal. -/
theorem status_of_bodyless
    {σ : Type} [ByteSource σ]
    {source : σ}
    {status : Nat}
    {contentType rangeHeader : Option String}
    {settings : StreamSettings}
    {b : Bodyless}
    (hBody :
      bodyless? (ByteSource.length source) status contentType
        settings
        (verdict (ByteSource.length source) settings.chunkSize
          rangeHeader) = some b) :
    (Refuses source settings.chunkSize rangeHeader ∧
        b.status ∈ refusalStatuses) ∨
      (¬ Refuses source settings.chunkSize rangeHeader ∧
        b.status = status) := by
  unfold Refuses
  cases hVerdict :
      verdict (ByteSource.length source) settings.chunkSize
        rangeHeader with
  | part start stop asked =>
      rw [hVerdict] at hBody
      cases hBody
  | noContent =>
      rw [hVerdict] at hBody
      cases hBody
      exact Or.inr ⟨id, rfl⟩
  | _ =>
      rw [hVerdict] at hBody
      cases hBody
      exact Or.inl ⟨trivial, by simp [refusalStatuses]⟩

/-
  Streaming a source lets one head through, before everything
  else. It keeps the headers of other names, and its status
  tells whether the request was refused.
-/
theorem Sends.exists_head
    {τ σ : Type} [Connection τ] [Connection.NeverFails τ]
    [ByteSource σ]
    {source source' : σ}
    {status : Nat}
    {contentType rangeHeader : Option String}
    {settings : StreamSettings}
    {w : WireHeaders}
    {es : List Event}
    {result : Result}
    (hSends :
      Sends source status contentType rangeHeader settings w es
        result source')
    (hAnswered : Answered τ es) :
    ∃ sent edits rest,
      signals es = .head sent (applyEdits w edits) :: rest ∧
        (∀ s ∈ rest, ¬ s.IsHead) ∧
        EditsOnly rangedNames edits ∧
        ((Refuses source settings.chunkSize rangeHeader ∧
            sent ∈ refusalStatuses) ∨
          (¬ Refuses source settings.chunkSize rangeHeader ∧
            (sent = status ∨ sent = 206))) := by
  cases hSends with
  | @bodyless v b answer es hVerdict hBody hCalls =>
      rw [answered_append] at hAnswered
      rcases signals_of_fullCalls_empty hCalls hAnswered.2 with
        ⟨_, hSignals⟩
      refine ⟨b.status, b.edits, [], by simp [hSignals],
        by simp, editsOnly_bodyless hBody, ?_⟩
      rw [← hVerdict] at hBody
      rcases status_of_bodyless hBody with hRefused | hKept
      · exact Or.inl hRefused
      · exact Or.inr ⟨hKept.1, Or.inl hKept.2⟩
  | @exhausted _ _ _ _ _ edits es hVerdict hSkip hEdits
      hCalls =>
      rw [answered_append, answered_cons, answered_append]
        at hAnswered
      rcases signals_of_fullCalls_empty hCalls
          hAnswered.2.2.2 with ⟨_, hSignals⟩
      refine ⟨400, edits ++ refusalEdits none, [], by
        simp [Event.signals, hSignals], by simp, ?_,
        Or.inl ⟨?_, by simp [refusalStatuses]⟩⟩
      · rw [hEdits]
        exact editsOnly_refused
          (editsOnly_announced contentType settings _ _ _) _
      · simp [Refuses, hVerdict, hSkip]
  | unsent hVerdict hSkip hEdits =>
      rw [answered_append, answered_cons, answered_cons]
        at hAnswered
      have hHead := head_ok hAnswered.2.2.1
      cases hHead
  | @served start stop asked _ _ edits es _ hVerdict hSkip hEdits
      hPumps =>
      refine ⟨partStatus asked status, edits, signals es, by
        simp [Event.signals],
        not_isHead_of_mem_signals hPumps.isBody, ?_,
        Or.inr ⟨?_, ?_⟩⟩
      · rw [hEdits]
        exact editsOnly_announced contentType settings _ _ _
      · simp [Refuses, hVerdict, hSkip]
      · cases asked
        · exact Or.inl rfl
        · exact Or.inr rfl

end Ranged

namespace Assembly

/-
  The engine is handed the payload and refuses the request: the
  payload is a source, or a buffered body that is streamed.
-/
def Refuses
    {σ : Type} [ByteSource σ]
    (r : Response σ)
    (q : RequestHead) : Prop :=
  match r.payload with
  | .source source =>
      Ranged.Refuses source (streamSettings r).chunkSize
        (q.header? "Range")
  | .body bytes =>
      bytes.isEmpty = false ∧ isPromoted r q bytes = true ∧
        Ranged.Refuses (MemorySource.ofBytes bytes)
          (streamSettings r).chunkSize (q.header? "Range")
  | .empty | .producer _ => False

/-
  Sending a payload lets one head through, before everything
  else. Its status is that of the response, or 206, unless the
  engine refuses.
-/
theorem Pays.exists_head
    {τ σ : Type} [Connection τ] [Connection.NeverFails τ]
    [ByteSource σ]
    {r : Response σ}
    {q : RequestHead}
    {w : WireHeaders}
    {es : List Event}
    {result : Result}
    (hPays : Pays r q w es result)
    (hAnswered : Answered τ es) :
    ∃ sent edits rest,
      signals es = .head sent (applyEdits w edits) :: rest ∧
        (∀ s ∈ rest, ¬ s.IsHead) ∧
        EditsOnly Ranged.rangedNames edits ∧
        ((Refuses r q ∧ sent ∈ Ranged.refusalStatuses) ∨
          (¬ Refuses r q ∧ (sent = r.status ∨ sent = 206))) := by
  cases hPays with
  | bare hPayload hCalls =>
      rcases signals_of_fullCalls_empty hCalls hAnswered with
        ⟨_, hSignals⟩
      refine ⟨r.status, [], [], hSignals, by simp, by
        simp [EditsOnly], Or.inr ⟨?_, Or.inl rfl⟩⟩
      unfold Refuses
      rcases hPayload with hEmpty | ⟨bytes, hBody, hBytes⟩
      · simp [hEmpty]
      · simp [hBody, hBytes]
  | @buffered bytes _ _ hPayload _ hPromoted hCalls =>
      rw [answered_cons] at hAnswered
      rcases signals_of_fullCalls hCalls hAnswered.2 with
        ⟨_, rest, hSignals, hHeads, _⟩
      refine ⟨r.status,
        [.set "Content-Length" (toString bytes.size)], rest,
        hSignals, hHeads, ?_, Or.inr ⟨?_, Or.inl rfl⟩⟩
      · simp [EditsOnly, HeaderEdit.name, Ranged.rangedNames]
      · simp [Refuses, hPayload, hPromoted]
  | promoted hPayload hBytes hPromoted hSends hLast =>
      rw [answered_append] at hAnswered
      rcases hSends.exists_head hAnswered.1 with
        ⟨sent, edits, rest, hSignals, hHeads, hEdits, hStatus⟩
      refine ⟨sent, edits, rest, ?_, hHeads, hEdits, ?_⟩
      · simpa [hLast, Event.signals] using hSignals
      · simpa [Refuses, hPayload, hBytes, hPromoted] using
          hStatus
  | sourced hPayload hSends hLast =>
      rw [answered_append] at hAnswered
      rcases hSends.exists_head hAnswered.1 with
        ⟨sent, edits, rest, hSignals, hHeads, hEdits, hStatus⟩
      refine ⟨sent, edits, rest, ?_, hHeads, hEdits, ?_⟩
      · simpa [hLast, Event.signals] using hSignals
      · simpa [Refuses, hPayload] using hStatus
  | @pushed producer answer edits es _ hPayload hEdits
      hFollows =>
      rw [answered_append, answered_cons] at hAnswered
      have hHead := head_ok hAnswered.2.1
      subst hHead
      refine ⟨r.status, edits, signals es, by
        simp [Event.signals],
        not_isHead_of_mem_signals hFollows.isBody, ?_,
        Or.inr ⟨?_, Or.inl rfl⟩⟩
      · rw [hEdits]
        exact (Pushed.editsOnly_pushEdits _ _).mono
          (by simp [Ranged.rangedNames, Ranged.streamNames])
      · simp [Refuses, hPayload]

end Assembly

------------------------------------------------------------
-- Cache headers
------------------------------------------------------------

/- The headers say how the response may be cached. -/
def WireHeaders.CarriesCache
    (w : WireHeaders) : Prop :=
  w.getAll "Cache-Control" ≠ [] ∨ w.getAll "ETag" ≠ []

/- Streaming a source leaves the cache headers alone. -/
theorem carriesCache_applyEdits
    {edits : List HeaderEdit}
    (hEdits : EditsOnly Ranged.rangedNames edits)
    (w : WireHeaders) :
    (applyEdits w edits).CarriesCache ↔ w.CarriesCache := by
  unfold WireHeaders.CarriesCache
  rw [hEdits.getAll_applyEdits (by decide +kernel),
    hEdits.getAll_applyEdits (by decide +kernel)]

namespace CachePolicy

open Header

/- A directive in seconds can be carried. -/
theorem isFieldText_of_mem_span
    {key : String}
    (hKey : isFieldText key)
    (d : Duration) :
    ∀ s ∈ span key d, isFieldText s := by
  intro s hs
  unfold span at hs
  split at hs
  · cases hs
  · have hEquals : isFieldText "=" := by decide
    rw [List.mem_singleton.mp hs]
    simp [hKey, hEquals]

/- A directive without a value can be carried. -/
theorem isFieldText_of_mem_flag
    {key : String}
    (hKey : isFieldText key)
    (active : Bool) :
    ∀ s ∈ flag key active, isFieldText s := by
  intro s hs
  unfold flag at hs
  split at hs
  · rwa [List.mem_singleton.mp hs]
  · cases hs

/- A message can carry what a policy renders to. -/
theorem isFieldText_render
    (p : CachePolicy) :
    isFieldText p.render := by
  apply isFieldText_intercalate (by decide)
  intro s hs
  rcases List.mem_cons.mp hs with rfl | hs
  · unfold visibility
    split <;> decide
  · simp only [directives, List.mem_append] at hs
    rcases hs with
      (((((((((hs | hs) | hs) | hs) | hs) | hs) | hs) | hs) | hs)
        | hs) | hs
    all_goals
      first
        | exact isFieldText_of_mem_span (by decide) _ s hs
        | exact isFieldText_of_mem_flag (by decide) _ s hs

end CachePolicy

namespace Delivery

open Assembly

section Settled

variable {σ : Type}
variable {d : Delivery} {r : Response σ} {q : RequestHead}

theorem getAll_cacheControl_settled
    {policy : CachePolicy}
    (hPolicy : d.policy? r q = some policy) :
    (d.settled r q).headers.getAll "Cache-Control" =
      [policy.render] := by
  unfold settled
  rw [hPolicy]
  simp only
  split
  · exact getAll_cacheControl_governed d r policy
  · exact getAll_cacheControl_governed d r policy

/- Only a success is governed by a policy. -/
theorem status_lt_of_policy
    {policy : CachePolicy}
    (hPolicy : d.policy? r q = some policy) :
    r.status < 300 := by
  unfold policy? at hPolicy
  split at hPolicy
  · next hBoth =>
      simp only [Bool.and_eq_true, decide_eq_true_eq] at hBoth
      exact hBoth.1
  · cases hPolicy

/- A governed response is settled as a success or a 304. -/
theorem status_settled_of_policy
    (hPolicy : (d.policy? r q).isSome) :
    (d.settled r q).status < 300 ∨
      (d.settled r q).status = 304 := by
  rcases Option.isSome_iff_exists.mp hPolicy with
    ⟨policy, hPolicy⟩
  cases hFresh : d.answersFresh r q with
  | true =>
      exact Or.inr (d.payload_settled_of_fresh r q hFresh).2
  | false =>
      rw [(d.payload_settled r q hFresh).2]
      exact Or.inl (status_lt_of_policy hPolicy)

/- The cache headers that are sent are those of a policy. -/
theorem carriesCache_carried_iff
    (hControl : r.headers.has "Cache-Control" = false)
    (hTag : r.headers.has "ETag" = false) :
    (applyEdits .empty
        (carryEdits d.codec (d.settled r q) q)).CarriesCache ↔
      (d.policy? r q).isSome := by
  unfold WireHeaders.CarriesCache
  rw [getAll_sent (by decide +kernel) (by decide +kernel),
    getAll_sent (by decide +kernel) (by decide +kernel)]
  cases hPolicy : d.policy? r q with
  | some policy =>
      rw [getAll_cacheControl_settled hPolicy]
      simp [policy.isFieldText_render]
  | none =>
      rw [HeaderList.has_eq_false_iff] at hControl hTag
      have hHeaders : (d.settled r q).headers = r.headers := by
        unfold settled
        rw [hPolicy]
        rfl
      simp [hHeaders, hControl, hTag]

end Settled

variable {τ σ : Type} [Connection τ] [Connection.NeverFails τ]
variable [ByteSource σ]

/-
  The one head of a dated response: what it carries, and the
  status that it has.
-/
theorem exists_head_of_dated
    {r : Response σ}
    (hHandler : r.handler = none)
    (hDated : Dated r.cookies)
    (d : Delivery)
    (q : RequestHead)
    (c : τ) :
    ∃ sent edits rest,
      signals
          (since (.start c)
            (perform (d.deliver r q) (.start c)).2) =
        .head sent
            (applyEdits
              (applyEdits .empty
                (carryEdits d.codec (d.settled r q) q))
              edits) :: rest ∧
        (∀ s ∈ rest, ¬ s.IsHead) ∧
        EditsOnly Ranged.rangedNames edits ∧
        ((Refuses (encoded d.codec (d.settled r q) q) q ∧
            sent ∈ Ranged.refusalStatuses) ∨
          (¬ Refuses (encoded d.codec (d.settled r q) q) q ∧
            (sent = (d.settled r q).status ∨ sent = 206))) := by
  rcases exists_pays_of_dated hHandler hDated d q c with
    ⟨result, es, _, _, hSeen, hAnswered, hPays⟩
  rcases hPays.exists_head hAnswered with
    ⟨sent, edits, rest, hSignals, hHeads, hEdits, hStatus⟩
  rw [status_encoded] at hStatus
  exact ⟨sent, edits, rest, hSeen.trans hSignals, hHeads,
    hEdits, hStatus⟩

/- A cookie that cannot be dated lets nothing through. -/
omit [Connection.NeverFails τ] in
theorem signals_eq_nil_of_undated
    {r : Response σ}
    (hHandler : r.handler = none)
    (hDated : ¬ Dated r.cookies)
    (d : Delivery)
    (q : RequestHead)
    (c : τ) :
    signals
        (since (.start c)
          (perform (d.deliver r q) (.start c)).2) = [] := by
  have hSettled := d.handler_settled r q hHandler
  rw [← d.cookies_settled r q] at hDated
  have hLeads :=
    leads_edited (cookieEdits (d.settled r q).cookies)
      (.start c : Exchange τ)
  rw [perform_deliver hHandler,
    perform_send_of_undated hSettled hDated]
  simp only [hLeads.since_eq, signals_map_edit]

/- An error among what the client sees may be cached. -/
def ShowsCacheableError
    (seen : List Signal) : Prop :=
  ∃ status headers,
    .head status headers ∈ seen ∧
      300 ≤ status ∧ status ≠ 304 ∧ headers.CarriesCache

/- A refusal keeps the cache headers of the success it was. -/
theorem showsCacheableError_of_refuses
    {d : Delivery}
    {r : Response σ}
    {q : RequestHead}
    (hHandler : r.handler = none)
    (hControl : r.headers.has "Cache-Control" = false)
    (hTag : r.headers.has "ETag" = false)
    (hPolicy : (d.policy? r q).isSome)
    (hDated : Dated r.cookies)
    (hRefuses : Refuses (encoded d.codec (d.settled r q) q) q)
    (c : τ) :
    ShowsCacheableError
      (signals
        (since (.start c)
          (perform (d.deliver r q) (.start c)).2)) := by
  rcases exists_head_of_dated hHandler hDated d q c with
    ⟨sent, edits, rest, hSignals, _, hEdits, hStatus⟩
  rcases hStatus with ⟨_, hRefusal⟩ | ⟨hServes, _⟩
  · have hError := Ranged.le_of_mem_refusalStatuses hRefusal
    rw [hSignals]
    refine ⟨sent, _, List.mem_cons_self, by omega, by omega, ?_⟩
    exact (carriesCache_applyEdits hEdits _).mpr
      ((carriesCache_carried_iff hControl hTag).mpr hPolicy)
  · exact absurd hRefuses hServes

/-
  An error carries cache headers exactly when a policy governs
  the response, its cookies can be dated, and the engine refuses
  the request after the headers were written. The handler is one
  that wrote no cache headers itself.
-/
theorem cacheable_error_head_iff
    {r : Response σ}
    (hHandler : r.handler = none)
    (hControl : r.headers.has "Cache-Control" = false)
    (hTag : r.headers.has "ETag" = false)
    (d : Delivery)
    (q : RequestHead)
    (c : τ) :
    let run := perform (d.deliver r q) (.start c)
    ShowsCacheableError (signals (since (.start c) run.2)) ↔
      (d.policy? r q).isSome ∧
        Dated r.cookies ∧
        Refuses (encoded d.codec (d.settled r q) q) q := by
  intro run
  constructor
  · rintro ⟨status, headers, hMem, hError, hOther, hCache⟩
    by_cases hDated : Dated r.cookies
    · rcases exists_head_of_dated hHandler hDated d q c with
        ⟨sent, edits, rest, hSignals, hHeads, hEdits, hStatus⟩
      change _ ∈ signals (since _ (perform _ _).2) at hMem
      rw [hSignals] at hMem
      rcases List.mem_cons.mp hMem with hHead | hRest
      · cases hHead
        have hPolicy : (d.policy? r q).isSome :=
          (carriesCache_carried_iff hControl hTag).mp
            ((carriesCache_applyEdits hEdits _).mp hCache)
        rcases hStatus with ⟨hRefuses, _⟩ | ⟨_, hKept⟩
        · exact ⟨hPolicy, hDated, hRefuses⟩
        · have hSuccess := status_settled_of_policy hPolicy
          omega
      · exact absurd trivial (hHeads _ hRest)
    · change _ ∈ signals (since _ (perform _ _).2) at hMem
      rw [signals_eq_nil_of_undated hHandler hDated] at hMem
      cases hMem
  · rintro ⟨hPolicy, hDated, hRefuses⟩
    exact showsCacheableError_of_refuses hHandler hControl hTag
      hPolicy hDated hRefuses c

------------------------------------------------------------
-- A range that starts beyond the content
------------------------------------------------------------

/- An endpoint whose answers may be kept for an hour. -/
def hourly : Delivery where
  cachePolicy := some { maxAge := { seconds := 3600 } }
  codec := .standard

/- Five bytes that are streamed. -/
def greeting : Response MemorySource :=
  Response.ofStatus 200
    |>.stream (.ofBytes "hello".toUTF8) "text/plain"

/- A request for what comes after nine bytes. -/
def tooFar : RequestHead :=
  .ofParts "GET" "/" [("Range", "bytes=9-".toUTF8)]

theorem refuses_tooFar :
    Refuses
      (encoded hourly.codec (hourly.settled greeting tooFar)
        tooFar) tooFar := by
  have hPayload :
      (hourly.settled greeting tooFar).payload =
        .source (.ofBytes "hello".toUTF8) :=
    (hourly.payload_settled greeting tooFar
      (by decide +kernel)).1
  have hVerdict :
      Ranged.verdict
        (ByteSource.length (MemorySource.ofBytes "hello".toUTF8))
        (streamSettings
          (encoded hourly.codec (hourly.settled greeting tooFar)
            tooFar)).chunkSize (tooFar.header? "Range") =
        .beyond := by
    decide +kernel
  rw [Refuses, payload_encoded _ _ _ (by simp [hPayload]),
    hPayload]
  simp only [Ranged.Refuses, hVerdict]

/- A refusal with the headers of a cacheable success. -/
theorem greeting_shows_cacheable_error :
    greeting.handler = none ∧
      greeting.headers.has "Cache-Control" = false ∧
      greeting.headers.has "ETag" = false ∧
      ShowsCacheableError
        (signals
          (since (.start OpenConnection.fresh)
            (perform (hourly.deliver greeting tooFar)
              (.start OpenConnection.fresh)).2)) := by
  have hControl :
      greeting.headers.has "Cache-Control" = false := by
    decide +kernel
  have hTag : greeting.headers.has "ETag" = false := by
    decide +kernel
  refine ⟨rfl, hControl, hTag, ?_⟩
  exact showsCacheableError_of_refuses rfl hControl hTag
    (by decide +kernel) (by decide +kernel) refuses_tooFar _

theorem cacheable_error_head_iff_of_greeting :
    ShowsCacheableError
        (signals
          (since (.start OpenConnection.fresh)
            (perform (hourly.deliver greeting tooFar)
              (.start OpenConnection.fresh)).2)) ↔
      (hourly.policy? greeting tooFar).isSome ∧
        Dated greeting.cookies ∧
        Refuses
          (encoded hourly.codec (hourly.settled greeting tooFar)
            tooFar) tooFar :=
  cacheable_error_head_iff rfl (by decide +kernel)
    (by decide +kernel) hourly tooFar OpenConnection.fresh

end Delivery

end Courier
