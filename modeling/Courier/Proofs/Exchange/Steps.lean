import Courier.Connection.Exchange

/-
  What each call of an exchange does to it: the events that it
  adds to the trace. The headers follow from the changes among
  these events, and nothing is said about the connection itself
  but that it is what answered.

  Key definitions include:
    * `Exchange.perform`
    * `Exchange.events`
    * `Exchange.since`
    * `Exchange.headersAfter`
    * `Event.IsAnswerOf`
    * `Exchange.Leads`

  Main statements:
    * `Exchange.perform_sendHead`
    * `Exchange.perform_sendFull`
    * `Exchange.perform_writeAndFlush`
    * `Exchange.perform_isClosed`
-/

namespace Courier

------------------------------------------------------------
-- Events
------------------------------------------------------------

/- The event is an answer that some state of a connection gives. -/
def Event.IsAnswerOf
    (τ : Type)
    [Connection τ] : Event → Prop
  | .head status headers answer =>
      ∃ t : τ,
        (Connection.sendHead status headers t).1 = answer
  | .full status headers body answer =>
      ∃ send ∈ Connection.sendFull? (τ := τ),
        ∃ t : τ, (send status headers body t).1 = answer
  | .write chunk answer =>
      ∃ t : τ, (Connection.write chunk t).1 = answer
  | .flush answer =>
      ∃ t : τ, (Connection.flush t).1 = answer
  | .asked closed =>
      ∃ t : τ, (Connection.isClosed t).1 = closed
  | .edit _ | .read _ _ | .skip _ _ | .close _ | .reply _ =>
      True

namespace Exchange

variable {τ α β : Type}

/- What an act answers and leaves when it is carried out. -/
def perform
    (act : Act τ α)
    (x : Exchange τ) : α × Exchange τ :=
  act.run x

/- The events of the trace, in order. -/
def events
    (x : Exchange τ) : List Event :=
  x.trace.toList

/- The events that a later exchange has more. -/
def since
    (x x' : Exchange τ) : List Event :=
  x'.events.drop x.events.length

------------------------------------------------------------
-- Acts in sequence
------------------------------------------------------------

@[simp] theorem perform_pure
    (v : α)
    (x : Exchange τ) :
    perform (pure v) x = (v, x) := rfl

theorem perform_bind
    (act : Act τ α)
    (next : α → Act τ β)
    (x : Exchange τ) :
    perform (act >>= next) x =
      perform (next (perform act x).1) (perform act x).2 := rfl

/- What follows an act goes on from what the act left. -/
theorem perform_bind_of_eq
    {act : Act τ α}
    {x x' : Exchange τ}
    {v : α}
    (hAct : perform act x = (v, x'))
    (next : α → Act τ β) :
    perform (act >>= next) x = perform (next v) x' := by
  rw [perform_bind, hAct]

------------------------------------------------------------
-- Headers along a trace
------------------------------------------------------------

/- The headers after an event: only an edit changes them. -/
def headersWith
    (w : WireHeaders) : Event → WireHeaders
  | .edit change => applyEdit w change
  | _ => w

/- The headers after events that started with these headers. -/
def headersAfter
    (w : WireHeaders)
    (es : List Event) : WireHeaders :=
  es.foldl headersWith w

/- The headers after changes. -/
def applyEdits
    (w : WireHeaders)
    (edits : List HeaderEdit) : WireHeaders :=
  edits.foldl applyEdit w

@[simp] theorem headersAfter_nil
    (w : WireHeaders) :
    headersAfter w [] = w := rfl

@[simp] theorem headersAfter_cons
    (w : WireHeaders)
    (e : Event)
    (es : List Event) :
    headersAfter w (e :: es) =
      headersAfter (headersWith w e) es := rfl

@[simp] theorem headersAfter_append
    (w : WireHeaders)
    (es fs : List Event) :
    headersAfter w (es ++ fs) =
      headersAfter (headersAfter w es) fs := by
  simp [headersAfter]

@[simp] theorem headersAfter_map_edit
    (w : WireHeaders)
    (edits : List HeaderEdit) :
    headersAfter w (edits.map .edit) = applyEdits w edits := by
  simp [headersAfter, applyEdits, List.foldl_map,
    headersWith]

@[simp] theorem applyEdits_nil
    (w : WireHeaders) :
    applyEdits w [] = w := rfl

@[simp] theorem applyEdits_cons
    (w : WireHeaders)
    (change : HeaderEdit)
    (edits : List HeaderEdit) :
    applyEdits w (change :: edits) =
      applyEdits (applyEdit w change) edits := rfl

@[simp] theorem applyEdits_append
    (w : WireHeaders)
    (edits later : List HeaderEdit) :
    applyEdits w (edits ++ later) =
      applyEdits (applyEdits w edits) later := by
  simp [applyEdits]

------------------------------------------------------------
-- Calls
------------------------------------------------------------

variable [Connection τ]

/-
  One exchange leads to another by events that are answers of
  the connection, and its headers change by the edits among
  them.
-/
structure Leads
    (x : Exchange τ)
    (es : List Event)
    (x' : Exchange τ) : Prop where
  headers_eq : x'.headers = headersAfter x.headers es
  events_eq : x'.events = x.events ++ es
  answered : ∀ e ∈ es, e.IsAnswerOf τ

namespace Leads

/- No events lead from an exchange to itself. -/
theorem refl
    (x : Exchange τ) :
    Leads x [] x where
  headers_eq := rfl
  events_eq := by simp
  answered := by simp

/- The events of two stretches follow each other. -/
theorem trans
    {x y z : Exchange τ}
    {es fs : List Event}
    (hFirst : Leads x es y)
    (hSecond : Leads y fs z) :
    Leads x (es ++ fs) z where
  headers_eq := by
    rw [hSecond.headers_eq, hFirst.headers_eq,
      headersAfter_append]
  events_eq := by
    rw [hSecond.events_eq, hFirst.events_eq,
      List.append_assoc]
  answered e he := by
    rcases List.mem_append.mp he with hOld | hNew
    · exact hFirst.answered e hOld
    · exact hSecond.answered e hNew

theorem since_eq
    {x x' : Exchange τ}
    {es : List Event}
    (hLeads : Leads x es x') :
    since x x' = es := by
  rw [since, hLeads.events_eq, List.drop_left]

/- One event that is put at the end of the trace. -/
theorem of_push
    {x x' : Exchange τ}
    {e : Event}
    (hHeaders : x'.headers = headersWith x.headers e)
    (hTrace : x'.trace = x.trace.push e)
    (hAnswer : e.IsAnswerOf τ) :
    Leads x [e] x' where
  headers_eq := hHeaders
  events_eq := by simp [events, hTrace]
  answered := by simpa using hAnswer

end Leads

/- A change of the headers is traced. -/
theorem leads_editHeaders
    (change : HeaderEdit)
    (x : Exchange τ) :
    Leads x [.edit change] (editHeaders change x) :=
  .of_push rfl rfl trivial

/- The exchange after changes of its headers. -/
def edited
    (edits : List HeaderEdit)
    (x : Exchange τ) : Exchange τ :=
  edits.foldl (fun x change => editHeaders change x) x

/- Changes of the headers are traced in order. -/
theorem leads_edited
    (edits : List HeaderEdit)
    (x : Exchange τ) :
    Leads x (edits.map .edit) (edited edits x) := by
  induction edits generalizing x with
  | nil => exact .refl x
  | cons change rest ih =>
      exact (leads_editHeaders change x).trans
        (ih (editHeaders change x))

theorem perform_log
    (e : Event)
    (hEdit : ∀ w, headersWith w e = w)
    (hAnswer : e.IsAnswerOf τ)
    (x : Exchange τ) :
    ∃ x',
      perform (log e) x = ((), x') ∧ Leads x [e] x' :=
  ⟨_, rfl, .of_push (hEdit x.headers).symm rfl hAnswer⟩

theorem perform_sendHead
    (status : Nat)
    (x : Exchange τ) :
    ∃ answer x',
      perform (sendHead status) x = (answer, x') ∧
        Leads x [.head status x.headers answer] x' :=
  ⟨_, _, rfl, .of_push rfl rfl ⟨x.connection, rfl⟩⟩

theorem perform_write
    (chunk : ByteArray)
    (x : Exchange τ) :
    ∃ answer x',
      perform (write chunk) x = (answer, x') ∧
        Leads x [.write chunk answer] x' :=
  ⟨_, _, rfl, .of_push rfl rfl ⟨x.connection, rfl⟩⟩

theorem perform_flush
    (x : Exchange τ) :
    ∃ answer x',
      perform flush x = (answer, x') ∧
        Leads x [.flush answer] x' :=
  ⟨_, _, rfl, .of_push rfl rfl ⟨x.connection, rfl⟩⟩

theorem perform_isClosed
    (x : Exchange τ) :
    ∃ closed x',
      perform isClosed x = (closed, x') ∧
        Leads x [.asked closed] x' :=
  ⟨_, _, rfl, .of_push rfl rfl ⟨x.connection, rfl⟩⟩

/- The calls that a chunk causes: no flush follows a failure. -/
inductive ChunkCalls
    (chunk : ByteArray) : Sent → List Event → Prop where
  | unwritten (e : SendError) :
      ChunkCalls chunk (.error e) [.write chunk (.error e)]
  | written (answer : Sent) :
      ChunkCalls chunk answer
        [.write chunk (.ok ()), .flush answer]

theorem perform_writeAndFlush
    (chunk : ByteArray)
    (x : Exchange τ) :
    ∃ answer es x',
      perform (writeAndFlush chunk) x = (answer, x') ∧
        ChunkCalls chunk answer es ∧ Leads x es x' := by
  rcases perform_write chunk x with
    ⟨answer, x₁, hWrite, hLeads⟩
  unfold writeAndFlush
  rw [perform_bind_of_eq hWrite]
  cases answer with
  | error e =>
      exact ⟨.error e, _, x₁, rfl, .unwritten e, hLeads⟩
  | ok _ =>
      rcases perform_flush x₁ with
        ⟨flushed, x₂, hFlush, hLeads'⟩
      exact ⟨flushed, _, x₂, hFlush, .written flushed,
        hLeads.trans hLeads'⟩

/-
  The calls that a complete response causes: one call, or a
  head and, for a body with bytes, one flushed write.
-/
inductive FullCalls
    (status : Nat)
    (headers : WireHeaders)
    (body : ByteArray) : Sent → List Event → Prop where
  | whole (answer : Sent) :
      FullCalls status headers body answer
        [.full status headers body answer]
  | unsent (e : SendError) :
      FullCalls status headers body (.error e)
        [.head status headers (.error e)]
  | bare
      (hBody : body.isEmpty) :
      FullCalls status headers body (.ok ())
        [.head status headers (.ok ())]
  | apart
      {answer : Sent} {es : List Event}
      (hBody : body.isEmpty = false)
      (hCalls : ChunkCalls body answer es) :
      FullCalls status headers body answer
        (.head status headers (.ok ()) :: es)

/- A complete response without body is one call. -/
theorem FullCalls.of_empty
    {status : Nat}
    {headers : WireHeaders}
    {answer : Sent}
    {es : List Event}
    (hCalls : FullCalls status headers .empty answer es) :
    es = [.head status headers answer] ∨
      es = [.full status headers .empty answer] := by
  cases hCalls with
  | whole => exact Or.inr rfl
  | unsent => exact Or.inl rfl
  | bare => exact Or.inl rfl
  | apart hBody => exact absurd hBody (by decide)

theorem perform_sendFull
    (status : Nat)
    (body : ByteArray)
    (x : Exchange τ) :
    ∃ answer es x',
      perform (sendFull status body) x = (answer, x') ∧
        FullCalls status x.headers body answer es ∧
        Leads x es x' := by
  unfold sendFull
  split
  · next send hSend =>
      refine ⟨_, _, _, rfl, .whole _, ?_⟩
      exact .of_push rfl rfl ⟨send, hSend, x.connection, rfl⟩
  · rcases perform_sendHead status x with
      ⟨answer, x₁, hHead, hLeads⟩
    rw [perform_bind_of_eq hHead]
    cases answer with
    | error e => exact ⟨_, _, x₁, rfl, .unsent e, hLeads⟩
    | ok _ =>
      by_cases hBody : body.isEmpty
      · simp only [hBody, if_true]
        exact ⟨_, _, x₁, rfl, .bare hBody, hLeads⟩
      · rw [Bool.not_eq_true] at hBody
        rcases perform_writeAndFlush body x₁ with
          ⟨answer, es, x₂, hWrite, hCalls, hLeads'⟩
        simp only [hBody, Bool.false_eq_true, if_false]
        exact ⟨answer, _, x₂, hWrite, .apart hBody hCalls,
          hLeads.trans hLeads'⟩

------------------------------------------------------------
-- Byte sources
------------------------------------------------------------

variable {σ : Type} [ByteSource σ]

theorem perform_readFrom
    (upTo : Nat)
    (source : σ)
    (x : Exchange τ) :
    ∃ x',
      perform (readFrom upTo source) x =
          (ByteSource.read upTo source, x') ∧
        Leads x
          [.read upTo (ByteSource.read upTo source).1] x' :=
  ⟨_, rfl, .of_push rfl rfl trivial⟩

theorem perform_skipIn
    (count : Nat)
    (source : σ)
    (x : Exchange τ) :
    ∃ x',
      perform (skipIn count source) x =
          (ByteSource.skip count source, x') ∧
        Leads x
          [.skip count (ByteSource.skip count source).1] x' :=
  ⟨_, rfl, .of_push rfl rfl trivial⟩

theorem perform_closeSource
    (source : σ)
    (x : Exchange τ) :
    ∃ x',
      perform (closeSource source) x = ((), x') ∧
        Leads x [.close (ByteSource.close source).1] x' :=
  ⟨_, rfl, .of_push rfl rfl trivial⟩

end Exchange

end Courier
