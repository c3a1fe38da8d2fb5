import Courier.Proofs.Exchange.Steps

/-
  What can be read off a trace: the calls that reach the
  connection, the chunks that were handed to it, those that
  were flushed as well, and those that a source answered.

  Key definitions include:
    * `Event.IsHead`
    * `Event.IsSend`
    * `Event.IsAside`
    * `Event.IsBody`
    * `Event.IsFailure`
    * `Trace.calls`
    * `Trace.written`
    * `Trace.flushed`
    * `Trace.returned`
    * `Trace.joined`
    * `Trace.Framed`
-/

namespace Courier

------------------------------------------------------------
-- Kinds of events
------------------------------------------------------------

namespace Event

/- An attempt to send the head of a response. -/
def IsHead : Event → Prop
  | .head _ _ _ | .full _ _ _ _ => True
  | _ => False

/- An attempt to write or to flush. -/
def IsSend : Event → Prop
  | .write _ _ | .flush _ => True
  | _ => False

/- A read from a source. -/
def IsRead : Event → Prop
  | .read _ _ => True
  | _ => False

instance : DecidablePred IsHead := fun e => by
  cases e <;> unfold IsHead <;> infer_instance

instance : DecidablePred IsSend := fun e => by
  cases e <;> unfold IsSend <;> infer_instance

/- An event that neither sends nor reads a chunk. -/
def IsQuiet
    (e : Event) : Prop :=
  ¬ e.IsSend ∧ ¬ e.IsRead

/- An event that is quiet and no attempt to send a head. -/
def IsAside
    (e : Event) : Prop :=
  e.IsQuiet ∧ ¬ e.IsHead

/- Sending a head is quiet. -/
theorem IsHead.isQuiet
    {e : Event}
    (hHead : e.IsHead) :
    e.IsQuiet := by
  cases e <;>
    simp_all [IsHead, IsQuiet, IsSend, IsRead]

@[simp] theorem isAside_edit
    (change : HeaderEdit) :
    (edit change).IsAside := by
  simp [IsAside, IsQuiet, IsSend, IsRead, IsHead]

@[simp] theorem isAside_skip
    (count : Nat)
    (exhausted : Bool) :
    (skip count exhausted).IsAside := by
  simp [IsAside, IsQuiet, IsSend, IsRead, IsHead]

@[simp] theorem isAside_close
    (answer : Except IoError Unit) :
    (close answer).IsAside := by
  simp [IsAside, IsQuiet, IsSend, IsRead, IsHead]

/- Events aside are quiet, and so is a head behind them. -/
theorem isQuiet_of_mem_append_head
    {es : List Event}
    (hAside : ∀ e ∈ es, e.IsAside)
    {status : Nat}
    {headers : WireHeaders}
    {answer : Sent} :
    ∀ e ∈ es ++ [head status headers answer], e.IsQuiet := by
  intro e he
  rcases List.mem_append.mp he with hOld | hHead
  · exact (hAside e hOld).1
  · rw [List.mem_singleton.mp hHead]
    exact IsHead.isQuiet trivial

/- Changing headers and skipping reach no one. -/
theorem isAside_edits_skip
    (edits : List HeaderEdit)
    (count : Nat)
    (exhausted : Bool) :
    ∀ e ∈ edits.map edit ++ [skip count exhausted],
      e.IsAside := by
  intro e he
  rcases List.mem_append.mp he with hEdit | hSkip
  · rcases List.mem_map.mp hEdit with ⟨change, _, rfl⟩
    exact isAside_edit change
  · rw [List.mem_singleton.mp hSkip]
    exact isAside_skip count exhausted

/- A change of the headers. -/
def IsEdit : Event → Prop
  | .edit _ => True
  | _ => False

/-
  Something that happens while a body is sent: the client is
  asked about, a chunk is read, written or flushed, or a call of
  a producer is answered.
-/
def IsBody : Event → Prop
  | .asked _ | .read _ _ | .write _ _ | .flush _ | .reply _ =>
      True
  | _ => False

/- Sending a body starts no response. -/
theorem IsBody.not_isHead
    {e : Event}
    (hBody : e.IsBody) :
    ¬ e.IsHead := by
  cases e <;> simp_all [IsBody, IsHead]

/- Sending a body changes no headers. -/
theorem IsBody.not_isEdit
    {e : Event}
    (hBody : e.IsBody) :
    ¬ e.IsEdit := by
  cases e <;> simp_all [IsBody, IsEdit]

/- A write or a flush that failed. -/
def IsFailure : Event → Prop
  | .write _ (.error _) | .flush (.error _) => True
  | _ => False

end Event

------------------------------------------------------------
-- Views
------------------------------------------------------------

namespace Trace

/- The attempts to send a head, to write and to flush. -/
def calls
    (es : List Event) : List Event :=
  es.filter fun e => e.IsHead ∨ e.IsSend

/- The chunk that an event hands to the connection. -/
def written? : Event → Option ByteArray
  | .write chunk _ => some chunk
  | _ => none

/- The chunks handed to the connection, in order. -/
def written
    (es : List Event) : List ByteArray :=
  es.filterMap written?

/- The chunk that an event reads from a source. -/
def returned? : Event → Option ByteArray
  | .read _ (.ok (chunk, _)) => some chunk
  | _ => none

/- The chunks that a source answered, in order. -/
def returned
    (es : List Event) : List ByteArray :=
  es.filterMap returned?

/- The chunks whose write and flush both succeeded. -/
def flushed : List Event → List ByteArray
  | .write chunk (.ok ()) :: .flush (.ok ()) :: rest =>
      chunk :: flushed rest
  | _ :: rest => flushed rest
  | [] => []

/- The number of bytes in chunks. -/
def total
    (chunks : List ByteArray) : Nat :=
  chunks.foldr (·.size + ·) 0

/- Chunks put together. -/
def joined
    (chunks : List ByteArray) : ByteArray :=
  chunks.foldr (· ++ ·) .empty

/-
  Pairs of a write and a flush that succeed, where the last
  pair may be broken off by a failure.
-/
inductive Framed : List Event → Prop where
  | nil : Framed []
  | unwritten (chunk : ByteArray) (e : SendError) :
      Framed [.write chunk (.error e)]
  | unflushed (chunk : ByteArray) (e : SendError) :
      Framed [.write chunk (.ok ()), .flush (.error e)]
  | pair (chunk : ByteArray) {rest : List Event} :
      Framed rest →
        Framed
          (.write chunk (.ok ()) :: .flush (.ok ()) :: rest)

------------------------------------------------------------
-- Views of stretches
------------------------------------------------------------

@[simp] theorem calls_nil : calls [] = [] := rfl

@[simp] theorem written_nil : written [] = [] := rfl

@[simp] theorem returned_nil : returned [] = [] := rfl

@[simp] theorem calls_cons
    (e : Event)
    (es : List Event) :
    calls (e :: es) =
      if e.IsHead ∨ e.IsSend then e :: calls es
      else calls es := by
  by_cases hCall : e.IsHead ∨ e.IsSend <;>
    simp [calls, hCall]

@[simp] theorem written_cons
    (e : Event)
    (es : List Event) :
    written (e :: es) =
      (written? e).toList ++ written es := by
  cases hChunk : written? e <;>
    simp [written, hChunk]

@[simp] theorem returned_cons
    (e : Event)
    (es : List Event) :
    returned (e :: es) =
      (returned? e).toList ++ returned es := by
  cases hChunk : returned? e <;>
    simp [returned, hChunk]

@[simp] theorem calls_append
    (es fs : List Event) :
    calls (es ++ fs) = calls es ++ calls fs := by
  simp [calls]

@[simp] theorem written_append
    (es fs : List Event) :
    written (es ++ fs) = written es ++ written fs := by
  simp [written]

@[simp] theorem returned_append
    (es fs : List Event) :
    returned (es ++ fs) = returned es ++ returned fs := by
  simp [returned]

@[simp] theorem total_nil : total [] = 0 := rfl

@[simp] theorem total_cons
    (chunk : ByteArray)
    (rest : List ByteArray) :
    total (chunk :: rest) = chunk.size + total rest := rfl

theorem total_append
    (chunks rest : List ByteArray) :
    total (chunks ++ rest) = total chunks + total rest := by
  induction chunks with
  | nil => simp
  | cons chunk chunks ih => simp [ih, Nat.add_assoc]

@[simp] theorem joined_nil : joined [] = .empty := rfl

@[simp] theorem joined_cons
    (chunk : ByteArray)
    (rest : List ByteArray) :
    joined (chunk :: rest) = chunk ++ joined rest := rfl

/- A failure ends a stretch of pairs. -/
theorem Framed.eq_nil_of_isFailure
    {es before after : List Event}
    {e : Event}
    (hFramed : Framed es)
    (hEvents : es = before ++ e :: after)
    (hFailure : e.IsFailure) :
    after = [] := by
  induction hFramed generalizing before with
  | nil => simp at hEvents
  | unwritten chunk cause =>
      cases before with
      | nil => exact (List.cons.inj hEvents).2.symm
      | cons first before => simp at hEvents
  | unflushed chunk cause =>
      match before with
      | [] =>
          rcases List.cons.inj hEvents with ⟨rfl, _⟩
          simp [Event.IsFailure] at hFailure
      | [_] =>
          simp at hEvents
          exact hEvents.2.2
      | _ :: _ :: before => simp at hEvents
  | pair chunk hRest ih =>
      match before with
      | [] =>
          rcases List.cons.inj hEvents with ⟨rfl, _⟩
          simp [Event.IsFailure] at hFailure
      | [_] =>
          simp at hEvents
          rcases hEvents with ⟨_, rfl, _⟩
          simp [Event.IsFailure] at hFailure
      | _ :: _ :: before =>
          simp only [List.cons_append,
            List.cons.injEq] at hEvents
          exact ih hEvents.2.2

/- No call is made by events aside. -/
theorem calls_eq_nil
    {es : List Event}
    (hAside : ∀ e ∈ es, e.IsAside) :
    calls es = [] := by
  rw [calls, List.filter_eq_nil_iff]
  intro e he
  rcases hAside e he with ⟨⟨hSend, _⟩, hHead⟩
  simp [hSend, hHead]

/- Nothing is written by events that do not send. -/
theorem written_eq_nil
    {es : List Event}
    (hQuiet : ∀ e ∈ es, e.IsQuiet) :
    written es = [] := by
  apply List.filterMap_eq_nil_iff.mpr
  intro e he
  have hSend := (hQuiet e he).1
  cases e <;> simp_all [written?, Event.IsSend]

/- Nothing is answered by events that do not read. -/
theorem returned_eq_nil
    {es : List Event}
    (hQuiet : ∀ e ∈ es, e.IsQuiet) :
    returned es = [] := by
  apply List.filterMap_eq_nil_iff.mpr
  intro e he
  have hRead := (hQuiet e he).2
  cases e <;> simp_all [returned?, Event.IsRead]

/- An event that does not send stands before no pair. -/
theorem flushed_cons_of_not_isSend
    {e : Event}
    (hSend : ¬ e.IsSend)
    (rest : List Event) :
    flushed (e :: rest) = flushed rest := by
  cases e <;> simp_all [flushed, Event.IsSend]

/- Events that do not send can be cut off in front. -/
theorem flushed_append_of_quiet
    {es : List Event}
    (hQuiet : ∀ e ∈ es, e.IsQuiet)
    (fs : List Event) :
    flushed (es ++ fs) = flushed fs := by
  induction es with
  | nil => rfl
  | cons e rest ih =>
      have hRest : ∀ e ∈ rest, e.IsQuiet :=
        fun e he => hQuiet e (List.mem_cons_of_mem _ he)
      rw [List.cons_append,
        flushed_cons_of_not_isSend
          (hQuiet e List.mem_cons_self).1,
        ih hRest]

/- An event that does not send can be cut off behind. -/
theorem flushed_append_singleton
    {e : Event}
    (hSend : ¬ e.IsSend)
    (es : List Event) :
    flushed (es ++ [e]) = flushed es := by
  induction es using flushed.induct with
  | case1 chunk rest ih => simpa [flushed] using ih
  | case2 first rest hPair ih =>
      rw [List.cons_append, flushed.eq_2, flushed.eq_2, ih]
      · exact hPair
      · intro chunk tail hFirst hRest
        cases rest with
        | nil =>
            have hFlush := (List.cons.inj hRest).1
            simp [hFlush, Event.IsSend] at hSend
        | cons second rest =>
            have hFlush := (List.cons.inj hRest).1
            exact hPair chunk rest hFirst (by rw [hFlush])
  | case3 => exact flushed_cons_of_not_isSend hSend []

/- A read does not stand among quiet events in front. -/
theorem read_behind_quiet
    {pre es before after : List Event}
    {n : Nat} {answer : ReadAnswer}
    (hQuiet : ∀ e ∈ pre, e.IsQuiet)
    (hEvents :
      pre ++ es = before ++ .read n answer :: after) :
    ∃ between,
      before = pre ++ between ∧
        es = between ++ .read n answer :: after := by
  rcases List.append_eq_append_iff.mp hEvents with
    ⟨between, hBefore, hRest⟩ | ⟨between, hPre, hRest⟩
  · exact ⟨between, hBefore, hRest⟩
  · cases between with
    | nil =>
        rw [List.append_nil] at hPre
        exact ⟨[], by simp [hPre], hRest.symm⟩
    | cons first between =>
        rcases List.cons.inj hRest with ⟨rfl, _⟩
        have hRead := (hQuiet (.read n answer) (by simp [hPre])).2
        exact absurd trivial hRead

/- A read is not the quiet event at the end. -/
theorem read_before_quiet
    {es before after : List Event}
    {last : Event}
    {n : Nat} {answer : ReadAnswer}
    (hQuiet : last.IsQuiet)
    (hEvents :
      es ++ [last] = before ++ .read n answer :: after) :
    ∃ between, es = before ++ .read n answer :: between := by
  rcases List.append_eq_append_iff.mp hEvents with
    ⟨between, hBefore, hRest⟩ | ⟨between, hEs, hRest⟩
  · cases between with
    | nil =>
        rcases List.cons.inj hRest with ⟨rfl, _⟩
        exact absurd trivial hQuiet.2
    | cons first between => simp at hRest
  · cases between with
    | nil =>
        rcases List.cons.inj hRest with ⟨rfl, _⟩
        exact absurd trivial hQuiet.2
    | cons first between =>
        rcases List.cons.inj hRest with ⟨rfl, _⟩
        exact ⟨between, hEs⟩

------------------------------------------------------------
-- Between quiet events
------------------------------------------------------------

section Between

variable {front es : List Event} {last : Event}

theorem written_between
    (hFront : ∀ e ∈ front, e.IsQuiet)
    (hLast : last.IsQuiet) :
    written (front ++ es ++ [last]) = written es := by
  have hBack : ∀ e ∈ [last], e.IsQuiet := by
    simpa using hLast
  rw [written_append, written_append, written_eq_nil hFront,
    written_eq_nil hBack, List.nil_append, List.append_nil]

theorem returned_between
    (hFront : ∀ e ∈ front, e.IsQuiet)
    (hLast : last.IsQuiet) :
    returned (front ++ es ++ [last]) = returned es := by
  have hBack : ∀ e ∈ [last], e.IsQuiet := by
    simpa using hLast
  rw [returned_append, returned_append,
    returned_eq_nil hFront, returned_eq_nil hBack,
    List.nil_append, List.append_nil]

theorem flushed_between
    (hFront : ∀ e ∈ front, e.IsQuiet)
    (hLast : last.IsQuiet) :
    flushed (front ++ es ++ [last]) = flushed es := by
  rw [flushed_append_singleton hLast.1,
    flushed_append_of_quiet hFront]

/- What is not quiet happened between the quiet events. -/
theorem mem_of_mem_between
    (hFront : ∀ e ∈ front, e.IsQuiet)
    (hLast : last.IsQuiet)
    {e : Event}
    (hEvent : e ∈ front ++ es ++ [last])
    (hLoud : ¬ e.IsQuiet) :
    e ∈ es := by
  rcases List.mem_append.mp hEvent with hInner | hBack
  · rcases List.mem_append.mp hInner with hOld | hNew
    · exact absurd (hFront e hOld) hLoud
    · exact hNew
  · rw [List.mem_singleton.mp hBack] at hLoud
    exact absurd hLast hLoud

/- A read is one of the events between the quiet ones. -/
theorem read_between
    (hFront : ∀ e ∈ front, e.IsQuiet)
    (hLast : last.IsQuiet)
    {before after : List Event}
    {n : Nat} {answer : ReadAnswer}
    (hEvents :
      front ++ es ++ [last] =
        before ++ .read n answer :: after) :
    ∃ inner rest,
      es = inner ++ .read n answer :: rest ∧
        flushed before = flushed inner := by
  rcases read_before_quiet hLast hEvents with ⟨rest, hInner⟩
  rcases read_behind_quiet hFront hInner with
    ⟨inner, rfl, hEs⟩
  exact ⟨inner, rest, hEs, flushed_append_of_quiet hFront _⟩

end Between

end Trace

------------------------------------------------------------
-- The calls of a chunk
------------------------------------------------------------

namespace Exchange.ChunkCalls

open Trace

variable {chunk : ByteArray} {answer : Sent}
variable {es : List Event}

/- A chunk is part of a body. -/
theorem isBody
    (hCalls : ChunkCalls chunk answer es) :
    ∀ e ∈ es, e.IsBody := by
  cases hCalls <;> simp [Event.IsBody]

/- All that a chunk causes are calls. -/
theorem calls_eq
    (hCalls : ChunkCalls chunk answer es) :
    calls es = es := by
  cases hCalls <;> simp [Event.IsHead, Event.IsSend]

/- A chunk is written and flushed, or broken off. -/
theorem framed
    (hCalls : ChunkCalls chunk answer es) :
    Framed (calls es) := by
  cases hCalls with
  | unwritten =>
      simpa [Event.IsHead, Event.IsSend] using
        Framed.unwritten _ _
  | written =>
      cases answer with
      | error e =>
          simpa [Event.IsHead, Event.IsSend] using
            Framed.unflushed _ _
      | ok _ =>
          simpa [Event.IsHead, Event.IsSend] using
            Framed.pair _ .nil

end Exchange.ChunkCalls

end Courier
