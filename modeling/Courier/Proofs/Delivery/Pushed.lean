import Courier.Delivery.Pushed
import Courier.Proofs.Exchange.Edits
import Courier.Proofs.Exchange.Trace

/-
  Streaming what a handler pushes, as relations between what
  its writer knows, the events that a call causes and what the
  call is answered. Whatever is called, the head is sent before
  everything else, chunks are written and flushed in
  pairs, and a failure is the last thing that the connection is
  called for.

  Key definitions include:
    * `CallTree.bind`
    * `Pushed.Asks`
    * `Pushed.WritesChunk`
    * `Pushed.Runs`
    * `Pushed.Follows`
    * `Pushed.pushEdits`

  Main statements:
    * `Pushed.perform_run`
    * `Pushed.perform_stream`
    * `Pushed.Runs.isBody`
    * `Pushed.Runs.framed`
-/

namespace Courier

/- Go on with what calls stopped with. -/
def CallTree.bind
    {α β : Type}
    (tree : CallTree α)
    (next : α → CallTree β) : CallTree β :=
  match tree with
  | .done value => next value
  | .write chunk more =>
      .write chunk fun closed => (more closed).bind next
  | .sent more => .sent fun bytes => (more bytes).bind next
  | .isClosed more =>
      .isClosed fun closed => (more closed).bind next

namespace Pushed

open Exchange Trace

variable {τ : Type} [Connection τ]

------------------------------------------------------------
-- Calls on a writer
------------------------------------------------------------

/-
  The question whether the client is gone. The connection is not
  asked any more once the writer knows.
-/
inductive Asks
    (w : Writer) : Bool → List Event → Prop where
  | known
      (hClosed : w.closed = true) :
      Asks w true []
  | asked
      (hClosed : w.closed = false)
      (closed : Bool) :
      Asks w closed [.asked closed]

theorem perform_askClosed
    (w : Writer)
    (x : Exchange τ) :
    ∃ closed es x',
      perform (askClosed w) x = (closed, x') ∧
        Asks w closed es ∧ Leads x es x' := by
  unfold askClosed
  by_cases hClosed : w.closed
  · rw [if_pos hClosed]
    exact ⟨true, [], x, rfl, .known hClosed, .refl x⟩
  · rw [if_neg hClosed]
    rw [Bool.not_eq_true] at hClosed
    rcases perform_isClosed x with ⟨closed, x', hAsk, hLeads⟩
    exact ⟨closed, _, x', hAsk, .asked hClosed closed, hLeads⟩

/-
  A chunk that is handed to the writer: the client is gone, the
  write or the flush fails, or the chunk is sent and counted.
-/
inductive WritesChunk
    (chunk : ByteArray)
    (w : Writer) : Bool → Writer → List Event → Prop where
  | gone
      {es : List Event}
      (hAsks : Asks w true es) :
      WritesChunk chunk w true { w with closed := true } es
  | failed
      {e : SendError} {es fs : List Event}
      (hAsks : Asks w false es)
      (hCalls : ChunkCalls chunk (.error e) fs) :
      WritesChunk chunk w true { w with closed := true }
        (es ++ fs)
  | sent
      {es : List Event}
      (hAsks : Asks w false es) :
      WritesChunk chunk w false
        { w with sent := w.sent + chunk.size }
        (es ++ [.write chunk (.ok ()), .flush (.ok ())])

theorem perform_writeChunk
    (chunk : ByteArray)
    (w : Writer)
    (x : Exchange τ) :
    ∃ closed w' es x',
      perform (writeChunk chunk w) x = ((closed, w'), x') ∧
        WritesChunk chunk w closed w' es ∧ Leads x es x' := by
  rcases perform_askClosed w x with
    ⟨gone, es, x₁, hAsk, hAsks, hLeads⟩
  rw [writeChunk, perform_bind_of_eq hAsk]
  cases gone with
  | true => exact ⟨true, _, es, x₁, rfl, .gone hAsks, hLeads⟩
  | false =>
      rcases perform_writeAndFlush chunk x₁ with
        ⟨answer, fs, x₂, hWrite, hCalls, hLeads'⟩
      simp only [Bool.false_eq_true, if_false]
      rw [perform_bind_of_eq hWrite]
      cases answer with
      | error e =>
          exact ⟨true, _, _, x₂, rfl, .failed hAsks hCalls,
            hLeads.trans hLeads'⟩
      | ok _ =>
          cases hCalls
          exact ⟨false, _, _, x₂, rfl, .sent hAsks,
            hLeads.trans hLeads'⟩

/-
  With a writer that knows this much to start with, calls cause
  these events, stop with this value and leave the writer so.
-/
inductive Runs
    {α : Type} :
    CallTree α → Writer → List Event → α → Writer → Prop where
  | done
      {value : α} {w : Writer} :
      Runs (.done value) w [] value w
  | write
      {chunk : ByteArray} {next : Bool → CallTree α}
      {w w' w'' : Writer} {closed : Bool}
      {es fs : List Event} {value : α}
      (hChunk : WritesChunk chunk w closed w' es)
      (hRest : Runs (next closed) w' fs value w'') :
      Runs (.write chunk next) w
        (es ++ .reply (.closed closed) :: fs) value w''
  | sent
      {next : Nat → CallTree α} {w w' : Writer}
      {es : List Event} {value : α}
      (hRest : Runs (next w.sent) w es value w') :
      Runs (.sent next) w (.reply (.count w.sent) :: es) value
        w'
  | isClosed
      {next : Bool → CallTree α} {w w' : Writer} {closed : Bool}
      {es fs : List Event} {value : α}
      (hAsks : Asks w closed es)
      (hRest : Runs (next closed) w fs value w') :
      Runs (.isClosed next) w
        (es ++ .reply (.closed closed) :: fs) value w'

/- Every run is one of the relation. -/
theorem perform_run
    {α : Type}
    (tree : CallTree α)
    (w : Writer)
    (x : Exchange τ) :
    ∃ value w' es x',
      perform (run tree w) x = ((value, w'), x') ∧
        Runs tree w es value w' ∧ Leads x es x' := by
  have hReply :
      ∀ (reply : Reply) (y : Exchange τ),
        ∃ y',
          perform (log (.reply reply)) y = ((), y') ∧
            Leads y [.reply reply] y' :=
    fun reply y =>
      perform_log (.reply reply) (fun _ => rfl) trivial y
  induction tree generalizing w x with
  | done value =>
      exact ⟨value, w, [], x, rfl, .done, .refl x⟩
  | write chunk next ih =>
      rcases perform_writeChunk chunk w x with
        ⟨closed, w₁, es, x₁, hWrite, hChunk, hLeads₁⟩
      rcases hReply (.closed closed) x₁ with
        ⟨x₂, hLog, hLeads₂⟩
      rcases ih closed w₁ x₂ with
        ⟨value, w', fs, x', hRun, hRest, hLeads₃⟩
      refine ⟨value, w', _, x', ?_, .write hChunk hRest, by
        simpa using (hLeads₁.trans hLeads₂).trans hLeads₃⟩
      rw [run, perform_bind_of_eq hWrite,
        perform_bind_of_eq hLog, hRun]
  | sent next ih =>
      rcases hReply (.count w.sent) x with ⟨x₁, hLog, hLeads₁⟩
      rcases ih w.sent w x₁ with
        ⟨value, w', fs, x', hRun, hRest, hLeads₂⟩
      refine ⟨value, w', _, x', ?_, .sent hRest,
        hLeads₁.trans hLeads₂⟩
      rw [run, perform_bind_of_eq hLog, hRun]
  | isClosed next ih =>
      rcases perform_askClosed w x with
        ⟨closed, es, x₁, hAsk, hAsks, hLeads₁⟩
      rcases hReply (.closed closed) x₁ with
        ⟨x₂, hLog, hLeads₂⟩
      rcases ih closed w x₂ with
        ⟨value, w', fs, x', hRun, hRest, hLeads₃⟩
      refine ⟨value, w', _, x', ?_, .isClosed hAsks hRest, by
        simpa using (hLeads₁.trans hLeads₂).trans hLeads₃⟩
      rw [run, perform_bind_of_eq hAsk,
        perform_bind_of_eq hLog, hRun]

------------------------------------------------------------
-- What the connection is called for
------------------------------------------------------------

theorem Asks.isBody
    {w : Writer}
    {closed : Bool}
    {es : List Event}
    (hAsks : Asks w closed es) :
    ∀ e ∈ es, e.IsBody := by
  cases hAsks <;> simp [Event.IsBody]

theorem Asks.calls_eq_nil
    {w : Writer}
    {closed : Bool}
    {es : List Event}
    (hAsks : Asks w closed es) :
    calls es = [] := by
  cases hAsks <;> simp [Event.IsHead, Event.IsSend]

theorem WritesChunk.isBody
    {chunk : ByteArray}
    {w w' : Writer}
    {closed : Bool}
    {es : List Event}
    (hChunk : WritesChunk chunk w closed w' es) :
    ∀ e ∈ es, e.IsBody := by
  cases hChunk with
  | gone hAsks => exact hAsks.isBody
  | failed hAsks hCalls =>
      intro e he
      rcases List.mem_append.mp he with hOld | hNew
      · exact hAsks.isBody e hOld
      · exact hCalls.isBody e hNew
  | sent hAsks =>
      intro e he
      rcases List.mem_append.mp he with hOld | hNew
      · exact hAsks.isBody e hOld
      · exact (ChunkCalls.written (.ok ())).isBody e hNew

/- A writer that knows of a failure writes no more. -/
theorem WritesChunk.of_closed
    {chunk : ByteArray}
    {w w' : Writer}
    {closed : Bool}
    {es : List Event}
    (hChunk : WritesChunk chunk w closed w' es)
    (hClosed : w.closed = true) :
    calls es = [] ∧ w'.closed = true := by
  cases hChunk with
  | gone hAsks => exact ⟨hAsks.calls_eq_nil, rfl⟩
  | failed hAsks =>
      cases hAsks with
      | asked hOpen => simp [hClosed] at hOpen
  | sent hAsks =>
      cases hAsks with
      | asked hOpen => simp [hClosed] at hOpen

namespace Runs

variable {α : Type} {tree : CallTree α} {w w' : Writer}
variable {es : List Event} {value : α}

/- The calls of two parts are those of the whole. -/
theorem bind
    {β : Type} {next : α → CallTree β} {w'' : Writer}
    {fs : List Event} {last : β}
    (h : Runs tree w es value w')
    (hNext : Runs (next value) w' fs last w'') :
    Runs (tree.bind next) w (es ++ fs) last w'' := by
  induction h with
  | done => exact hNext
  | write hChunk _ ih =>
      rw [List.append_assoc]
      exact .write hChunk (ih hNext)
  | sent _ ih => exact .sent (ih hNext)
  | isClosed hAsks _ ih =>
      rw [List.append_assoc]
      exact .isClosed hAsks (ih hNext)

/- Calls on a writer send a body and do nothing else. -/
theorem isBody
    (h : Runs tree w es value w') :
    ∀ e ∈ es, e.IsBody := by
  induction h with
  | done => simp
  | write hChunk _ ih =>
      intro e he
      rcases List.mem_append.mp he with hOld | hNew
      · exact hChunk.isBody e hOld
      · rcases List.mem_cons.mp hNew with rfl | hRest
        · trivial
        · exact ih e hRest
  | sent _ ih =>
      intro e he
      rcases List.mem_cons.mp he with rfl | hRest
      · trivial
      · exact ih e hRest
  | isClosed hAsks _ ih =>
      intro e he
      rcases List.mem_append.mp he with hOld | hNew
      · exact hAsks.isBody e hOld
      · rcases List.mem_cons.mp hNew with rfl | hRest
        · trivial
        · exact ih e hRest

/- Once a failure is known the connection is left alone. -/
theorem calls_eq_nil_of_closed
    (h : Runs tree w es value w')
    (hClosed : w.closed = true) :
    calls es = [] := by
  induction h with
  | done => rfl
  | write hChunk _ ih =>
      rcases hChunk.of_closed hClosed with ⟨hCalls, hStays⟩
      simp [hCalls, ih hStays, Event.IsHead, Event.IsSend]
  | sent _ ih => simp [ih hClosed, Event.IsHead, Event.IsSend]
  | isClosed hAsks _ ih =>
      simp [hAsks.calls_eq_nil, ih hClosed, Event.IsHead,
        Event.IsSend]

/- Chunks are written and flushed in pairs up to a failure. -/
theorem framed
    (h : Runs tree w es value w') :
    Framed (calls es) := by
  induction h with
  | done => exact .nil
  | write hChunk hRest ih =>
      cases hChunk with
      | gone hAsks =>
          simpa [hAsks.calls_eq_nil, Event.IsHead,
            Event.IsSend] using ih
      | failed hAsks hCalls =>
          have hSilent := hRest.calls_eq_nil_of_closed rfl
          simpa [hAsks.calls_eq_nil, hSilent, Event.IsHead,
            Event.IsSend] using hCalls.framed
      | sent hAsks =>
          simpa [hAsks.calls_eq_nil, Event.IsHead,
            Event.IsSend] using Framed.pair _ ih
  | sent _ ih => simpa [Event.IsHead, Event.IsSend] using ih
  | isClosed hAsks _ ih =>
      simpa [hAsks.calls_eq_nil, Event.IsHead, Event.IsSend]
        using ih

end Runs

------------------------------------------------------------
-- The whole stream
------------------------------------------------------------

/-
  What follows a head that was answered so: nothing, or the run
  of the handler, and the question whether the client stayed
  among the calls of those who hold the writer still.
-/
inductive Follows
    (producer : Producer) :
    Sent → List Event → Except DeliveryError StreamOutcome →
      Prop where
  | unsent
      (e : SendError) :
      Follows producer (.error e) [] (.error (.send e))
  | pushed
      {es fs gs hs : List Event} {ending : Ending}
      {rest : CallTree Unit} {w w' w'' : Writer} {closed : Bool}
      (hRuns : Runs producer {} es ending w)
      (hLater : Runs ending.later w fs rest w')
      (hAsks : Asks w' closed gs)
      (hRest : Runs rest w' hs () w'') :
      Follows producer (.ok ()) (es ++ fs ++ gs ++ hs)
        (ended ending.result closed w.sent)

namespace Follows

variable {producer : Producer} {answer : Sent}
variable {es : List Event}
variable {result : Except DeliveryError StreamOutcome}

theorem isBody
    (h : Follows producer answer es result) :
    ∀ e ∈ es, e.IsBody := by
  cases h with
  | unsent => simp
  | pushed hRuns hLater hAsks hRest =>
      have hCalled := (hRuns.bind hLater).isBody
      intro e he
      rcases List.mem_append.mp he with he | hLast
      · rcases List.mem_append.mp he with hFirst | hAsked
        · exact hCalled e hFirst
        · exact hAsks.isBody e hAsked
      · exact hRest.isBody e hLast

/- The question to the client comes between whole chunks. -/
theorem framed
    (h : Follows producer answer es result) :
    Framed (calls es) := by
  cases h with
  | unsent => exact .nil
  | @pushed es fs gs hs _ _ _ _ w'' _ hRuns hLater hAsks hRest =>
      have hWhole :
          Runs ((producer.bind Ending.later).bind id) {}
            (es ++ fs ++ hs) () w'' :=
        (hRuns.bind hLater).bind hRest
      simpa [hAsks.calls_eq_nil] using hWhole.framed

/- Nothing follows a head that is not taken. -/
theorem eq_nil_of_unsent
    {e : SendError}
    (h : Follows producer (.error e) es result) :
    es = [] := by
  cases h
  rfl

end Follows

/- The changes that a pushed response makes. -/
def pushEdits
    (contentType : Option String)
    (settings : StreamSettings) : List HeaderEdit :=
  [ .set "Connection" "keep-alive",
    .set "Keep-Alive" settings.keepAlive ]
  ++ contentType.toList.map (.set "Content-Type")

theorem editsOnly_pushEdits
    (contentType : Option String)
    (settings : StreamSettings) :
    EditsOnly ["Connection", "Keep-Alive", "Content-Type"]
      (pushEdits contentType settings) := by
  intro change hChange
  cases contentType with
  | none =>
      simp [pushEdits] at hChange
      rcases hChange with rfl | rfl <;> simp [HeaderEdit.name]
  | some value =>
      simp [pushEdits] at hChange
      rcases hChange with rfl | rfl | rfl <;>
        simp [HeaderEdit.name]

theorem perform_afterHead
    (producer : Producer)
    (answer : Sent)
    (x : Exchange τ) :
    ∃ result es x',
      perform (afterHead producer answer) x = (result, x') ∧
        Follows producer answer es result ∧ Leads x es x' := by
  cases answer with
  | error e => exact ⟨_, [], x, rfl, .unsent e, .refl x⟩
  | ok _ =>
      rcases perform_run producer {} x with
        ⟨ending, w, es, x₁, hRun, hRuns, hLeads₁⟩
      rcases perform_run ending.later w x₁ with
        ⟨rest, w', fs, x₂, hRunLater, hLater, hLeads₂⟩
      rcases perform_askClosed w' x₂ with
        ⟨closed, gs, x₃, hAsk, hAsks, hLeads₃⟩
      rcases perform_run rest w' x₃ with
        ⟨_, w'', hs, x₄, hRunRest, hRest, hLeads₄⟩
      refine ⟨_, _, x₄, ?_, .pushed hRuns hLater hAsks hRest,
        ((hLeads₁.trans hLeads₂).trans hLeads₃).trans hLeads₄⟩
      rw [afterHead, perform_bind_of_eq hRun,
        perform_bind_of_eq hRunLater, perform_bind_of_eq hAsk,
        perform_bind_of_eq hRunRest]
      rfl

/- The head is sent first, and the handler runs behind it. -/
theorem perform_stream
    (status : Nat)
    (contentType : Option String)
    (settings : StreamSettings)
    (producer : Producer)
    (x : Exchange τ) :
    ∃ result answer es x',
      perform (stream status contentType settings producer) x =
          (result, x') ∧
        Follows producer answer es result ∧
        Leads x
          ((pushEdits contentType settings).map .edit ++
            .head status
              (applyEdits x.headers
                (pushEdits contentType settings)) answer ::
              es) x' := by
  have hLeads₁ :=
    leads_edited (pushEdits contentType settings) x
  have hHeaders :
      (edited (pushEdits contentType settings) x).headers =
        applyEdits x.headers
          (pushEdits contentType settings) := by
    rw [hLeads₁.headers_eq, headersAfter_map_edit]
  rcases perform_sendHead status
      (edited (pushEdits contentType settings) x) with
    ⟨answer, x₂, hSend, hLeads₂⟩
  rw [hHeaders] at hLeads₂
  rcases perform_afterHead producer answer x₂ with
    ⟨result, es, x₃, hAfter, hFollows, hLeads₃⟩
  refine ⟨result, answer, es, x₃, ?_, hFollows, by
    simpa using (hLeads₁.trans hLeads₂).trans hLeads₃⟩
  rw [stream, perform_bind_of_eq (perform_setHeader _ _ _),
    perform_bind_of_eq (perform_setHeader _ _ _),
    perform_bind_of_eq (perform_setHeader? _ _ _),
    ← edited_append, ← edited_append]
  exact (perform_bind_of_eq hSend _).trans hAfter

end Pushed

end Courier
