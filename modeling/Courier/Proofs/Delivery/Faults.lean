import Courier.Connection.Planned
import Courier.Proofs.Delivery.Pushed
import Courier.Proofs.Delivery.Sends
import Courier.Source.Memory
import Mathlib.Control.Monad.Basic

/-
  What makes a streamed delivery an error. A client that goes
  away while a body is sent is no fault, whichever write or
  flush finds out; a head that cannot be sent is one, also when
  the client is gone, and so are a read that fails and a
  connection that breaks off. Whoever pushes a body is told of
  every failure behind the head, and only an error of its own
  is one of the delivery.

  Key definitions include:
    * `Event.headFault?`
    * `Event.fault?`
    * `Trace.headFaults`
    * `Trace.faults`
    * `Trace.replies`
    * `Producer.endsAfter?`

  Main statements:
    * `Ranged.Pumps.faults_eq`
    * `Ranged.Sends.error_iff`
    * `Pushed.Follows.error_iff`
    * `stream_error_iff`
-/

namespace Courier

open Exchange Trace

------------------------------------------------------------
-- Faults
------------------------------------------------------------

namespace Event

/- What a head that could not be sent makes of a delivery. -/
def headFault? : Event → Option DeliveryError
  | .head _ _ (.error e) | .full _ _ _ (.error e) =>
      some (.send e)
  | _ => none

/-
  What an event makes of the delivery of a source. A write or a
  flush that finds the client gone is no fault.
-/
def fault? : Event → Option DeliveryError
  | .write _ (.error (.io cause)) | .flush (.error (.io cause)) =>
      some (.send (.io cause))
  | .read _ (.error cause) => some (.io cause)
  | e => e.headFault?

/- The answer that a call by a producer was given. -/
def reply? : Event → Option Reply
  | .reply answer => some answer
  | _ => none

end Event

namespace Trace

/- The faults of heads, in order. -/
def headFaults
    (es : List Event) : List DeliveryError :=
  es.filterMap Event.headFault?

/- The faults of a delivery from a source, in order. -/
def faults
    (es : List Event) : List DeliveryError :=
  es.filterMap Event.fault?

/- What a producer was answered, in order. -/
def replies
    (es : List Event) : List Reply :=
  es.filterMap Event.reply?

/- The error that a result is, if it is one. -/
def errors
    {α : Type} : Except DeliveryError α → List DeliveryError
  | .error e => [e]
  | .ok _ => []

@[simp] theorem mem_errors
    {α : Type}
    {result : Except DeliveryError α}
    {e : DeliveryError} :
    e ∈ errors result ↔ result = .error e := by
  cases result <;> simp [errors, eq_comm]

@[simp] theorem faults_nil :
    faults [] = [] := rfl

@[simp] theorem faults_cons
    (e : Event)
    (es : List Event) :
    faults (e :: es) = e.fault?.toList ++ faults es := by
  cases h : e.fault? <;> simp [faults, h]

@[simp] theorem faults_append
    (es fs : List Event) :
    faults (es ++ fs) = faults es ++ faults fs :=
  List.filterMap_append

@[simp] theorem headFaults_append
    (es fs : List Event) :
    headFaults (es ++ fs) = headFaults es ++ headFaults fs :=
  List.filterMap_append

@[simp] theorem replies_append
    (es fs : List Event) :
    replies (es ++ fs) = replies es ++ replies fs :=
  List.filterMap_append

@[simp] theorem faults_map_edit
    (edits : List HeaderEdit) :
    faults (edits.map .edit) = [] := by
  simp [faults, Event.fault?, Event.headFault?]

/- Nothing but a head is at fault when a body is pushed. -/
theorem headFaults_eq_nil
    {es : List Event}
    (hBody : ∀ e ∈ es, e.IsBody) :
    headFaults es = [] := by
  rw [headFaults, List.filterMap_eq_nil_iff]
  intro e he
  have hEach := hBody e he
  cases e with
  | head => exact hEach.elim
  | full => exact hEach.elim
  | _ => rfl

end Trace

------------------------------------------------------------
-- A source
------------------------------------------------------------

namespace Ranged

variable {τ σ : Type} [Connection τ] [ByteSource σ]

@[simp] theorem faults_asks
    (chunkSize owed : Nat) :
    faults (asks chunkSize owed) = [] := by
  unfold asks
  split <;> rfl

/- The loop ends with the fault that it met, if it met one. -/
theorem Pumps.faults_eq
    {chunkSize owed sent : Nat} {s s' : σ}
    {es : List Event} {result : Result}
    (h : Pumps chunkSize owed sent s es result s') :
    faults es = errors result := by
  induction h with
  | done => rfl
  | gone => rfl
  | unread => simp [Event.fault?, errors]
  | @broken _ _ _ _ _ e _ _ _ hCalls =>
      cases hCalls <;> cases e <;>
        simp [Event.fault?, Event.headFault?, stopped, errors]
  | ended => simp [Event.fault?, Event.headFault?, errors]
  | round _ _ _ _ ih =>
      simpa [Event.fault?, Event.headFault?] using ih

/- A head without a body is at fault when it is not sent. -/
theorem faults_of_fullCalls
    {status : Nat} {headers : WireHeaders}
    {answer : Sent} {es : List Event}
    (hCalls : FullCalls status headers .empty answer es)
    (outcome : StreamOutcome) :
    faults es = errors (ifSent answer (.ok outcome)) := by
  rcases hCalls.of_empty with rfl | rfl <;> cases answer <;> rfl

/-
  A run ends with the fault that it met. Without one it is an
  error only when no chunk may hold a byte.
-/
theorem Sends.error_iff
    {source source' : σ} {status : Nat}
    {contentType rangeHeader : Option String}
    {settings : StreamSettings} {w : WireHeaders}
    {es : List Event} {result : Result}
    (hSends :
      Sends source status contentType rangeHeader settings w es
        result source')
    (e : DeliveryError) :
    result = .error e ↔
      e ∈ faults es ∨
        faults es = [] ∧
          verdict (ByteSource.length source) settings.chunkSize
            rangeHeader = .zeroChunk ∧
          e = .misuse .zeroChunkSize := by
  -- only a run without a chunk size fails without a fault
  have hOther :
      verdict (ByteSource.length source) settings.chunkSize
          rangeHeader ≠ .zeroChunk →
        faults es = errors result →
          (result = .error e ↔
            e ∈ faults es ∨
              faults es = [] ∧
                verdict (ByteSource.length source)
                  settings.chunkSize rangeHeader = .zeroChunk ∧
                e = .misuse .zeroChunkSize) := by
    intro hVerdict hFaults
    simp [hVerdict, hFaults]
  cases hSends with
  | @bodyless v b answer es hVerdict hBody hCalls =>
      have hFaults :
          faults (b.edits.map .edit ++ es) = faults es := by
        simp
      cases v with
      | zeroChunk =>
          cases hBody
          rw [hFaults, faults_of_fullCalls hCalls (.completed 0)]
          cases answer <;> simp [ifSent, errors, hVerdict, eq_comm]
      | part => cases hBody
      | _ =>
          cases hBody
          refine hOther (by simp [hVerdict]) ?_
          rw [hFaults, faults_of_fullCalls hCalls]
  | @exhausted _ _ _ _ answer edits es hVerdict _ _ hCalls =>
      refine hOther (by simp [hVerdict]) ?_
      simp [Event.fault?, Event.headFault?,
        faults_of_fullCalls hCalls (.rejected 400)]
  | unsent hVerdict =>
      refine hOther (by simp [hVerdict]) ?_
      simp [Event.fault?, Event.headFault?, errors]
  | served hVerdict _ _ hPumps =>
      refine hOther (by simp [hVerdict]) ?_
      simp [Event.fault?, Event.headFault?, hPumps.faults_eq]

end Ranged

------------------------------------------------------------
-- A producer
------------------------------------------------------------

/-
  What a handler ends with when the calls on its writer are
  answered so. The answers to later calls tell nothing of it.
-/
def Producer.endsAfter? :
    Producer → List Reply → Option (Except String Unit)
  | .done ending, _ => some ending.result
  | .write _ next, .closed closed :: rest =>
      Producer.endsAfter? (next closed) rest
  | .sent next, .count bytes :: rest =>
      Producer.endsAfter? (next bytes) rest
  | .isClosed next, .closed closed :: rest =>
      Producer.endsAfter? (next closed) rest
  | _, _ => none

namespace Pushed

variable {τ : Type} [Connection τ]

theorem replies_of_asks
    {w : Writer} {closed : Bool} {es : List Event}
    (hAsks : Asks w closed es) :
    replies es = [] := by
  cases hAsks <;> rfl

theorem replies_of_writesChunk
    {chunk : ByteArray} {w w' : Writer} {closed : Bool}
    {es : List Event}
    (hChunk : WritesChunk chunk w closed w' es) :
    replies es = [] := by
  cases hChunk with
  | gone hAsks => exact replies_of_asks hAsks
  | failed hAsks hCalls =>
      rw [replies_append, replies_of_asks hAsks]
      cases hCalls <;> rfl
  | sent hAsks =>
      rw [replies_append, replies_of_asks hAsks]
      rfl

/- A run ends as the handler does that is answered so. -/
theorem Runs.endsAfter?_eq
    {producer : Producer} {w w' : Writer}
    {es : List Event} {ending : Ending}
    (h : Runs producer w es ending w')
    (later : List Reply) :
    producer.endsAfter? (replies es ++ later) =
      some ending.result := by
  induction h with
  | done => rfl
  | write hChunk _ ih =>
      rw [replies_append, replies_of_writesChunk hChunk]
      exact ih
  | sent _ ih => exact ih
  | isClosed hAsks _ ih =>
      rw [replies_append, replies_of_asks hAsks]
      exact ih

/-
  Behind a head that was sent, only the handler fails. Behind
  one that was not, it never runs.
-/
theorem Follows.error_iff
    {producer : Producer} {answer : Sent}
    {es : List Event}
    {result : Except DeliveryError StreamOutcome}
    (h : Follows producer answer es result)
    (status : Nat)
    (headers : WireHeaders)
    (e : DeliveryError) :
    let all := .head status headers answer :: es
    result = .error e ↔
      e ∈ headFaults all ∨
        headFaults all = [] ∧
          ∃ message,
            producer.endsAfter? (replies all) =
                some (.error message) ∧
              e = .handler message := by
  intro all
  have hBehind : headFaults es = [] := headFaults_eq_nil h.isBody
  have hReplies : replies all = replies es := rfl
  rw [hReplies]
  cases h with
  | unsent lost =>
      have hHead : headFaults all = [.send lost] := rfl
      simp [hHead, eq_comm]
  | @pushed _ _ _ _ ending _ _ _ _ _ hRuns hLater hAsks hRest =>
      have hHead : headFaults all = [] := hBehind
      rw [hHead, List.append_assoc, List.append_assoc,
        replies_append, hRuns.endsAfter?_eq]
      cases ending.result <;> simp [ended, eq_comm]

end Pushed

------------------------------------------------------------
-- Every run
------------------------------------------------------------

/-
  Over every connection, the delivery of a source is an error
  exactly for a head that was not sent, a write or a flush that
  failed though the client was there, a read that failed, or a
  chunk size of zero. A pushed delivery is one exactly for a
  head that was not sent or an error of its producer. A client
  that is gone by a write or a flush is neither.
-/
theorem stream_error_iff
    {τ σ : Type} [Connection τ] [ByteSource σ]
    (status : Nat)
    (contentType : Option String)
    (settings : StreamSettings)
    (x : Exchange τ)
    (e : DeliveryError) :
    (∀ (source : σ) (rangeHeader : Option String),
      let run :=
        perform
          (Ranged.stream source status contentType rangeHeader
            settings) x
      let es := since x run.2
      run.1 = .error e ↔
        e ∈ faults es ∨
          faults es = [] ∧
            Ranged.verdict (ByteSource.length source)
              settings.chunkSize rangeHeader = .zeroChunk ∧
            e = .misuse .zeroChunkSize) ∧
      ∀ producer : Producer,
        let run :=
          perform
            (Pushed.stream status contentType settings producer)
            x
        let es := since x run.2
        run.1 = .error e ↔
          e ∈ headFaults es ∨
            headFaults es = [] ∧
              ∃ message,
                producer.endsAfter? (replies es) =
                    some (.error message) ∧
                  e = .handler message := by
  constructor
  · intro source rangeHeader
    rcases Ranged.perform_stream source status contentType
        rangeHeader settings x with
      ⟨result, source', es, x', hRun, hSends, hLeads⟩
    have hFaults :
        faults (es ++ [.close (ByteSource.close source').1]) =
          faults es := by
      simp [Event.fault?, Event.headFault?]
    rw [hRun]
    simp only [hLeads.since_eq]
    rw [hFaults]
    exact hSends.error_iff e
  · intro producer
    rcases Pushed.perform_stream status contentType settings
        producer x with
      ⟨result, answer, es, x', hRun, hFollows, hLeads⟩
    have hQuiet :
        ∀ edits : List HeaderEdit,
          headFaults (edits.map .edit) = [] ∧
            replies (edits.map .edit) = [] := by
      intro edits
      simp [headFaults, replies, Event.headFault?, Event.reply?]
    rw [hRun]
    simp only [hLeads.since_eq]
    rw [replies_append, headFaults_append, (hQuiet _).1,
      (hQuiet _).2]
    exact hFollows.error_iff status _ e

/-
  A client that is gone before the head makes the delivery of
  five bytes an error. Nothing is at fault but that one head.
-/
theorem stream_error_of_lost_head :
    let data : ByteArray := ⟨#[104, 101, 108, 108, 111]⟩
    let settings : StreamSettings := {}
    let x : Exchange PlannedConnection :=
      .start { headPlan := some ⟨0, .closed⟩ }
    let run :=
      perform
        (Ranged.stream (MemorySource.ofBytes data) 200 none none
          settings) x
    let es := since x run.2
    run.1 = .error (.send .closed) ∧
      headFaults es = [.send .closed] ∧
      faults es = headFaults es ∧
      settings.chunkSize ≠ 0 :=
  ⟨by decide +kernel, by decide +kernel, by decide +kernel,
    by decide⟩

end Courier
