import Courier.Connection.Planned
import Courier.Compression.Standard
import Courier.Proofs.Delivery.Chunks
import Courier.Proofs.Delivery.Settled

/-
  One head, before everything else. Whatever a delivery sends,
  and however the connection, the source and the producer
  behave, one head is attempted, no byte of a body goes before
  it or behind one that is not taken, the headers stay as they
  were sent, and a failed write or flush is the last one.

  Key definitions include:
    * `Trace.Headed`
    * `Trace.HeadFirst`

  Main statements:
    * `Ranged.Sends.headed`
    * `Assembly.Pays.headed`
    * `Delivery.deliver_headFirst`
-/

namespace Courier

open Exchange Trace

------------------------------------------------------------
-- Attempts to send a head
------------------------------------------------------------

namespace Event

/- The headers that an attempt to send a head is made with. -/
def headHeaders? : Event → Option WireHeaders
  | .head _ headers _ | .full _ headers _ _ => some headers
  | _ => none

/- An attempt to send a head that failed. -/
def IsRefused : Event → Prop
  | .head _ _ (.error _) | .full _ _ _ (.error _) => True
  | _ => False

/- Only an attempt to send a head is made with headers. -/
theorem isHead_of_headHeaders
    {e : Event}
    {headers : WireHeaders}
    (hHeaders : e.headHeaders? = some headers) :
    e.IsHead := by
  cases e <;> simp_all [headHeaders?, IsHead]

/- Sending a head changes no headers. -/
theorem IsHead.not_isEdit
    {e : Event}
    (hHead : e.IsHead) :
    ¬ e.IsEdit := by
  cases e <;> simp_all [IsHead, IsEdit]

end Event

namespace Trace

/- Events that are no changes leave the headers alone. -/
theorem headersAfter_of_forall_not_isEdit
    {es : List Event}
    (hEdits : ∀ e ∈ es, ¬ e.IsEdit)
    (w : WireHeaders) :
    headersAfter w es = w := by
  induction es generalizing w with
  | nil => rfl
  | cons e rest ih =>
      have hRest : ∀ e ∈ rest, ¬ e.IsEdit :=
        fun e he => hEdits e (List.mem_cons_of_mem _ he)
      have hFirst : headersWith w e = w := by
        have hEdit := hEdits e List.mem_cons_self
        cases e with
        | edit change => exact absurd trivial hEdit
        | _ => rfl
      rw [headersAfter_cons, hFirst, ih hRest]

/-
  The events with one attempt to send a head: before it nothing
  is sent, and behind it there are pairs of a write and a flush,
  none of them when the head is not taken.
-/
inductive Headed
    (w : WireHeaders) : List Event → Prop where
  | intro
      {before after : List Event} {head : Event}
      (hBefore : ∀ e ∈ before, e.IsAside)
      (hHead : head.headHeaders? = some (headersAfter w before))
      (hAlone : ∀ e ∈ after, ¬ e.IsHead ∧ ¬ e.IsEdit)
      (hFramed : Framed (calls after))
      (hRefused : head.IsRefused → calls after = []) :
      Headed w (before ++ head :: after)

namespace Headed

variable {w : WireHeaders} {es : List Event}

/- Events aside may happen before the head. -/
theorem prepend
    {pre : List Event}
    (hPre : ∀ e ∈ pre, e.IsAside)
    (hHeaded : Headed (headersAfter w pre) es) :
    Headed w (pre ++ es) := by
  cases hHeaded with
  | @intro before after head hBefore hHead hAlone hFramed
      hRefused =>
      have hBoth : ∀ e ∈ pre ++ before, e.IsAside := by
        intro e he
        rcases List.mem_append.mp he with hOld | hNew
        · exact hPre e hOld
        · exact hBefore e hNew
      rw [← List.append_assoc]
      rw [← headersAfter_append] at hHead
      exact .intro hBoth hHead hAlone hFramed hRefused

/- A source may be closed behind everything else. -/
theorem append_close
    (hHeaded : Headed w es)
    (answer : Except IoError Unit) :
    Headed w (es ++ [.close answer]) := by
  cases hHeaded with
  | @intro before after head hBefore hHead hAlone hFramed
      hRefused =>
      have hCalls :
          calls (after ++ [.close answer]) = calls after := by
        simp [Event.IsHead, Event.IsSend]
      have hBoth :
          ∀ e ∈ after ++ [.close answer],
            ¬ e.IsHead ∧ ¬ e.IsEdit := by
        intro e he
        rcases List.mem_append.mp he with hOld | hNew
        · exact hAlone e hOld
        · rw [List.mem_singleton.mp hNew]
          exact ⟨id, id⟩
      rw [List.append_assoc, List.cons_append]
      refine .intro hBefore hHead hBoth ?_ ?_
      · rw [hCalls]
        exact hFramed
      · rw [hCalls]
        exact hRefused

/- A body that is sent behind a head. -/
theorem of_body
    {head : Event}
    (hHead : head.headHeaders? = some w)
    (hBody : ∀ e ∈ es, e.IsBody)
    (hFramed : Framed (calls es))
    (hRefused : head.IsRefused → es = []) :
    Headed w (head :: es) := by
  have hNone : ∀ e ∈ ([] : List Event), e.IsAside := by
    simp
  have hAlone : ∀ e ∈ es, ¬ e.IsHead ∧ ¬ e.IsEdit :=
    fun e he =>
      ⟨(hBody e he).not_isHead, (hBody e he).not_isEdit⟩
  refine .intro hNone hHead hAlone hFramed ?_
  intro hFailed
  rw [hRefused hFailed, calls_nil]

end Headed

/- A complete response is one head and what is behind it. -/
theorem headed_of_fullCalls
    {status : Nat}
    {w : WireHeaders}
    {body : ByteArray}
    {answer : Sent}
    {es : List Event}
    (hCalls : FullCalls status w body answer es) :
    Headed w es := by
  have hNone : ∀ e ∈ ([] : List Event), e.IsBody := by
    simp
  cases hCalls with
  | whole => exact .of_body rfl hNone .nil fun _ => rfl
  | unsent => exact .of_body rfl hNone .nil fun _ => rfl
  | bare => exact .of_body rfl hNone .nil fun _ => rfl
  | apart _ hChunk =>
      exact .of_body rfl hChunk.isBody hChunk.framed False.elim

------------------------------------------------------------
-- The head comes first
------------------------------------------------------------

/-
  An attempt to send a head with these headers, between the
  events before and after it.
-/
structure HeadFirst
    (headers : WireHeaders)
    (before : List Event)
    (head : Event)
    (after : List Event) : Prop where
  headers_eq : head.headHeaders? = some headers
  -- nothing is sent before the head
  before_silent : ∀ e ∈ before, ¬ e.IsHead ∧ ¬ e.IsSend
  -- there is no second head and no late header
  alone : ∀ e ∈ after, ¬ e.IsHead
  unchanged : ∀ e ∈ after, ¬ e.IsEdit
  -- a head that is not taken has no body
  refused_silent : head.IsRefused → ∀ e ∈ after, ¬ e.IsSend
  -- a failed write or flush is the last one
  failed_silent :
    ∀ front failure back,
      after = front ++ failure :: back →
        failure.IsFailure → ∀ e ∈ back, ¬ e.IsSend

/- Events that make no call send nothing. -/
theorem not_isSend_of_calls_eq_nil
    {es : List Event}
    (hCalls : calls es = []) :
    ∀ e ∈ es, ¬ e.IsSend := by
  intro e he hSend
  have hMem : e ∈ calls es := by
    simp [calls, he, hSend]
  rw [hCalls] at hMem
  cases hMem

/- Nothing is sent behind a failure in a stretch of pairs. -/
theorem Framed.not_isSend_of_isFailure
    {es front back : List Event}
    {failure : Event}
    (hFramed : Framed (calls es))
    (hEvents : es = front ++ failure :: back)
    (hFailure : failure.IsFailure) :
    ∀ e ∈ back, ¬ e.IsSend := by
  have hSend : failure.IsSend := by
    cases failure <;> simp_all [Event.IsFailure, Event.IsSend]
  have hCalls :
      calls es = calls front ++ failure :: calls back := by
    rw [hEvents, calls_append, calls_cons,
      if_pos (Or.inr hSend)]
  exact not_isSend_of_calls_eq_nil
    (hFramed.eq_nil_of_isFailure hCalls hFailure)

/- The headers at the end are those of the one head. -/
theorem Headed.exists_headFirst
    {w : WireHeaders}
    {es : List Event}
    (hHeaded : Headed w es) :
    ∃ before head after,
      es = before ++ head :: after ∧
        HeadFirst (headersAfter w es) before head after := by
  cases hHeaded with
  | @intro before after head hBefore hHead hAlone hFramed
      hRefused =>
      have hIsHead := Event.isHead_of_headHeaders hHead
      have hBehind : ∀ e ∈ head :: after, ¬ e.IsEdit := by
        intro e he
        rcases List.mem_cons.mp he with rfl | hRest
        · exact hIsHead.not_isEdit
        · exact (hAlone e hRest).2
      have hHeaders :
          headersAfter w (before ++ head :: after) =
            headersAfter w before := by
        rw [headersAfter_append,
          headersAfter_of_forall_not_isEdit hBehind]
      refine ⟨before, head, after, rfl, ?_⟩
      exact
        { headers_eq := by rw [hHeaders, hHead]
          before_silent := fun e he =>
            ⟨(hBefore e he).2, (hBefore e he).1.1⟩
          alone := fun e he => (hAlone e he).1
          unchanged := fun e he => (hAlone e he).2
          refused_silent := fun hFailed =>
            not_isSend_of_calls_eq_nil (hRefused hFailed)
          failed_silent := fun _ _ _ hAfter hFailure =>
            hFramed.not_isSend_of_isFailure hAfter hFailure }

end Trace

------------------------------------------------------------
-- Payloads
------------------------------------------------------------

variable {τ σ : Type} [Connection τ] [ByteSource σ]

/- A head that follows changes of the headers. -/
theorem Trace.Headed.of_edits
    {w : WireHeaders}
    {edits : List HeaderEdit}
    {es : List Event}
    (hHeaded : Headed (applyEdits w edits) es) :
    Headed w (edits.map .edit ++ es) := by
  apply Headed.prepend (by simp)
  rw [headersAfter_map_edit]
  exact hHeaded

/- A head that follows the skip to the first byte. -/
theorem Trace.Headed.of_skip
    {w : WireHeaders}
    {start : Nat}
    {exhausted : Bool}
    {es : List Event}
    (hHeaded : Headed w es) :
    Headed w (.skip start exhausted :: es) := by
  have hSkip :
      ∀ e ∈ [Event.skip start exhausted], e.IsAside := by
    simp
  exact Headed.prepend hSkip hHeaded

/- Streaming a source attempts one head before it sends. -/
theorem Ranged.Sends.headed
    {source source' : σ}
    {status : Nat}
    {contentType rangeHeader : Option String}
    {settings : StreamSettings}
    {w : WireHeaders}
    {es : List Event}
    {result : Ranged.Result}
    (hSends :
      Ranged.Sends source status contentType rangeHeader
        settings w es result source') :
    Headed w es := by
  cases hSends with
  | bodyless _ _ hCalls =>
      exact (headed_of_fullCalls hCalls).of_edits
  | exhausted _ _ _ hCalls =>
      exact (headed_of_fullCalls hCalls).of_edits.of_skip.of_edits
  | unsent =>
      have hNone : ∀ e ∈ ([] : List Event), e.IsBody := by
        simp
      apply Headed.of_edits
      apply Headed.of_skip
      exact .of_body rfl hNone .nil fun _ => rfl
  | served _ _ _ hPumps =>
      apply Headed.of_edits
      apply Headed.of_skip
      exact
        .of_body rfl hPumps.isBody hPumps.framed False.elim

/- Every payload is sent behind one head. -/
theorem Assembly.Pays.headed
    {r : Response σ}
    {q : RequestHead}
    {w : WireHeaders}
    {es : List Event}
    {result : Assembly.Result}
    (hPays : Assembly.Pays r q w es result) :
    Headed w es := by
  cases hPays with
  | bare _ hCalls => exact headed_of_fullCalls hCalls
  | @buffered bytes _ es _ _ _ hCalls =>
      have hHead :
          Headed
            (applyEdits w
              [.set "Content-Length" (toString bytes.size)])
            es :=
        headed_of_fullCalls hCalls
      exact hHead.of_edits
  | promoted _ _ _ hSends hLast =>
      rw [hLast]
      exact hSends.headed.append_close _
  | sourced _ hSends hLast =>
      rw [hLast]
      exact hSends.headed.append_close _
  | @pushed _ answer _ _ _ _ _ hFollows =>
      apply Headed.of_edits
      apply Headed.of_body rfl hFollows.isBody hFollows.framed
      intro hRefused
      cases answer with
      | error e => exact hFollows.eq_nil_of_unsent
      | ok _ => exact hRefused.elim

------------------------------------------------------------
-- Every delivery
------------------------------------------------------------

namespace Delivery

/-
  A response with cookies that can be dated is delivered with
  one head before everything else, with the headers that the
  exchange ends with, whatever the connection, the source and
  the producer do.
-/
theorem deliver_headFirst
    {r : Response σ}
    (hHandler : r.handler = none)
    (hDated : Dated r.cookies)
    (d : Delivery)
    (q : RequestHead)
    (x : Exchange τ) :
    let run := perform (d.deliver r q) x
    ∃ before head after,
      since x run.2 = before ++ head :: after ∧
        HeadFirst run.2.headers before head after := by
  intro run
  rcases perform_deliver_of_dated hHandler hDated d q x with
    ⟨result, es, x', hRun, hPays, hLeads⟩
  have hEnd : run.2 = x' := by
    change (perform _ x).2 = x'
    rw [hRun]
  have hHeaded := hPays.headed.of_edits
  rw [hEnd, hLeads.since_eq, hLeads.headers_eq]
  exact hHeaded.exists_headFirst

/- A producer that writes on after the client went away. -/
def insistent : Producer :=
  .write "one".toUTF8 fun _ =>
    .write "two".toUTF8 fun _ => .done { result := .ok () }

theorem deliver_headFirst_of_insistent :
    let d : Delivery := { codec := .standard }
    let r : Response MemorySource :=
      Response.ofStatus 200 |>.produce insistent
    let q : RequestHead := .ofParts "GET" "/" []
    let c : PlannedConnection :=
      { flushPlan := some ⟨0, .closed⟩ }
    let x : Exchange PlannedConnection := .start c
    let run := perform (d.deliver r q) x
    ∃ before head after,
      since x run.2 = before ++ head :: after ∧
        HeadFirst run.2.headers before head after := by
  intro d r q c x
  have hDated : Dated r.cookies := by decide
  exact deliver_headFirst rfl hDated d q x

end Delivery

end Courier
