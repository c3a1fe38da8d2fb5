import Courier.Proofs.Exchange.Trace

/-
  What reaches the client: heads, chunks and flushes. A response
  that is handed over in one call shows as a head and a chunk,
  so that connections that take it so and those that do not are
  compared by what they let through. On a connection that never
  fails every call of a trace shows.

  Key definitions include:
    * `Signal`
    * `Trace.signals`
    * `Trace.pushes`
    * `Trace.bodySize`
    * `Exchange.Answered`

  Main statements:
    * `Exchange.signals_of_chunkCalls`
    * `Exchange.signals_of_fullCalls_empty`
-/

namespace Courier

/- Something that reaches the client. -/
inductive Signal where
  | head (status : Nat) (headers : WireHeaders)
  | chunk (bytes : ByteArray)
  | flush
deriving DecidableEq

namespace Signal

/- The bytes of a body that a signal carries. -/
def chunk? : Signal → Option ByteArray
  | chunk bytes => some bytes
  | head _ _ | flush => none

/- The start of a response. -/
def IsHead : Signal → Prop
  | head _ _ => True
  | chunk _ | flush => False

end Signal

/- What a call lets through when it succeeds. -/
def Event.signals : Event → List Signal
  | .head status headers (.ok ()) => [.head status headers]
  | .full status headers body (.ok ()) =>
      .head status headers ::
        if body.isEmpty then [] else [.chunk body]
  | .write chunk (.ok ()) => [.chunk chunk]
  | .flush (.ok ()) => [.flush]
  | _ => []

namespace Trace

/- What a trace lets through, in order. -/
def signals
    (es : List Event) : List Signal :=
  es.flatMap Event.signals

/- Chunks that are pushed out one by one. -/
def pushes
    (chunks : List ByteArray) : List Signal :=
  chunks.flatMap fun chunk => [.chunk chunk, .flush]

/- The number of bytes of a body that were let through. -/
def bodySize
    (ss : List Signal) : Nat :=
  total (ss.filterMap Signal.chunk?)

@[simp] theorem signals_nil : signals [] = [] := rfl

@[simp] theorem signals_cons
    (e : Event)
    (es : List Event) :
    signals (e :: es) = e.signals ++ signals es := by
  simp [signals]

@[simp] theorem signals_append
    (es fs : List Event) :
    signals (es ++ fs) = signals es ++ signals fs := by
  simp [signals]

@[simp] theorem pushes_nil : pushes [] = [] := rfl

@[simp] theorem pushes_cons
    (chunk : ByteArray)
    (rest : List ByteArray) :
    pushes (chunk :: rest) =
      .chunk chunk :: .flush :: pushes rest := rfl

@[simp] theorem bodySize_nil : bodySize [] = 0 := rfl

/- Pushed chunks are the body. -/
@[simp] theorem bodySize_pushes
    (chunks : List ByteArray) :
    bodySize (pushes chunks) = total chunks := by
  unfold bodySize
  induction chunks with
  | nil => rfl
  | cons chunk rest ih =>
      rw [pushes_cons, total_cons, ← ih]
      rfl

/- Pushing chunks starts no response. -/
theorem not_isHead_of_mem_pushes
    {chunks : List ByteArray} :
    ∀ s ∈ pushes chunks, ¬ s.IsHead := by
  intro s hs
  rcases List.mem_flatMap.mp hs with ⟨chunk, _, hMem⟩
  simp at hMem
  rcases hMem with rfl | rfl
  · exact id
  · exact id

/- Events aside let nothing through. -/
theorem signals_eq_nil
    {es : List Event}
    (hAside : ∀ e ∈ es, e.IsAside) :
    signals es = [] := by
  rw [signals, List.flatMap_eq_nil_iff]
  intro e he
  rcases hAside e he with ⟨⟨hSend, _⟩, hHead⟩
  cases e <;>
    simp_all [Event.signals, Event.IsSend, Event.IsHead]

/- Sending a body lets no head through. -/
theorem not_isHead_of_mem_signals
    {es : List Event}
    (hBody : ∀ e ∈ es, e.IsBody) :
    ∀ s ∈ signals es, ¬ s.IsHead := by
  intro s hs
  rcases List.mem_flatMap.mp hs with ⟨e, he, hMem⟩
  have hHead := (hBody e he).not_isHead
  cases e with
  | head => exact absurd trivial hHead
  | full => exact absurd trivial hHead
  | write chunk answer =>
      cases answer <;> simp [Event.signals] at hMem
      subst hMem
      exact id
  | flush answer =>
      cases answer <;> simp [Event.signals] at hMem
      subst hMem
      exact id
  | _ => simp [Event.signals] at hMem

@[simp] theorem signals_map_edit
    (edits : List HeaderEdit) :
    signals (edits.map .edit) = [] :=
  signals_eq_nil (by simp)

end Trace

------------------------------------------------------------
-- Connections that never fail
------------------------------------------------------------

namespace Exchange

open Trace

variable (τ : Type) [Connection τ]

/- Events that some states of a connection answer. -/
def Answered
    (es : List Event) : Prop :=
  ∀ e ∈ es, e.IsAnswerOf τ

variable {τ}

theorem answered_append
    {es fs : List Event} :
    Answered τ (es ++ fs) ↔
      Answered τ es ∧ Answered τ fs := by
  simp only [Answered, List.mem_append]
  constructor
  · intro h
    exact ⟨fun e he => h e (Or.inl he),
      fun e he => h e (Or.inr he)⟩
  · rintro ⟨hFirst, hSecond⟩ e (he | he)
    · exact hFirst e he
    · exact hSecond e he

theorem answered_cons
    {e : Event}
    {es : List Event} :
    Answered τ (e :: es) ↔
      e.IsAnswerOf τ ∧ Answered τ es := by
  simp [Answered]

variable [Connection.NeverFails τ]

theorem head_ok
    {status : Nat}
    {headers : WireHeaders}
    {answer : Sent}
    (hAnswer :
      (Event.head status headers answer).IsAnswerOf τ) :
    answer = .ok () := by
  rcases hAnswer with ⟨t, rfl⟩
  exact Connection.NeverFails.sendHead_ok status headers t

theorem full_ok
    {status : Nat}
    {headers : WireHeaders}
    {body : ByteArray}
    {answer : Sent}
    (hAnswer :
      (Event.full status headers body answer).IsAnswerOf τ) :
    answer = .ok () := by
  rcases hAnswer with ⟨send, hSend, t, rfl⟩
  exact Connection.NeverFails.sendFull_ok send hSend status
    headers body t

theorem write_ok
    {chunk : ByteArray}
    {answer : Sent}
    (hAnswer : (Event.write chunk answer).IsAnswerOf τ) :
    answer = .ok () := by
  rcases hAnswer with ⟨t, rfl⟩
  exact Connection.NeverFails.write_ok chunk t

theorem flush_ok
    {answer : Sent}
    (hAnswer : (Event.flush answer).IsAnswerOf τ) :
    answer = .ok () := by
  rcases hAnswer with ⟨t, rfl⟩
  exact Connection.NeverFails.flush_ok t

theorem asked_false
    {closed : Bool}
    (hAnswer : (Event.asked closed).IsAnswerOf τ) :
    closed = false := by
  rcases hAnswer with ⟨t, rfl⟩
  exact Connection.NeverFails.isClosed_false t

/- A chunk is let through and flushed. -/
theorem signals_of_chunkCalls
    {chunk : ByteArray}
    {answer : Sent}
    {es : List Event}
    (hCalls : ChunkCalls chunk answer es)
    (hAnswered : Answered τ es) :
    answer = .ok () ∧ signals es = pushes [chunk] := by
  cases hCalls with
  | unwritten e =>
      have hWrite :=
        write_ok (hAnswered _ List.mem_cons_self)
      cases hWrite
  | written =>
      have hFlush :=
        flush_ok
          (hAnswered _
            (List.mem_cons_of_mem _ List.mem_cons_self))
      subst hFlush
      exact ⟨rfl, rfl⟩

/- A complete response without body lets its head through. -/
theorem signals_of_fullCalls_empty
    {status : Nat}
    {headers : WireHeaders}
    {answer : Sent}
    {es : List Event}
    (hCalls : FullCalls status headers .empty answer es)
    (hAnswered : Answered τ es) :
    answer = .ok () ∧
      signals es = [.head status headers] := by
  rcases hCalls.of_empty with rfl | rfl
  · have hHead := head_ok (hAnswered _ List.mem_cons_self)
    subst hHead
    exact ⟨rfl, rfl⟩
  · have hFull := full_ok (hAnswered _ List.mem_cons_self)
    subst hFull
    exact ⟨rfl, rfl⟩

/- A complete response lets its head and its body through. -/
theorem signals_of_fullCalls
    {status : Nat}
    {headers : WireHeaders}
    {body : ByteArray}
    {answer : Sent}
    {es : List Event}
    (hCalls : FullCalls status headers body answer es)
    (hAnswered : Answered τ es) :
    answer = .ok () ∧
      ∃ rest,
        signals es = .head status headers :: rest ∧
          (∀ s ∈ rest, ¬ s.IsHead) ∧
          rest.filterMap Signal.chunk? =
            if body.isEmpty then [] else [body] := by
  cases hCalls with
  | whole =>
      have hFull := full_ok (hAnswered _ List.mem_cons_self)
      subst hFull
      refine ⟨rfl, if body.isEmpty then [] else [.chunk body],
        by simp [Event.signals], ?_, ?_⟩
      · split <;> simp [Signal.IsHead]
      · split <;> rfl
  | unsent =>
      have hHead := head_ok (hAnswered _ List.mem_cons_self)
      cases hHead
  | bare hBody =>
      exact ⟨rfl, [], rfl, by simp, by simp [hBody]⟩
  | apart hBody hCalls =>
      rw [answered_cons] at hAnswered
      rcases signals_of_chunkCalls hCalls hAnswered.2 with
        ⟨rfl, hSignals⟩
      refine ⟨rfl, pushes [body], by
        simp [Event.signals, hSignals],
        not_isHead_of_mem_pushes, ?_⟩
      rw [hBody]
      rfl

end Exchange

end Courier
