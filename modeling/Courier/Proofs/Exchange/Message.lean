import Courier.Proofs.Exchange.Signals

/-
  Messages as a client reads them: over a connection that never
  fails a response shows as one head and, in chunks that may be
  flushed at any place, the bytes of its body.

  Key definitions include:
    * `Message`
    * `Trace.bodyBytes`
    * `Trace.Shows`

  Main statements:
    * `Trace.shows_pushes`
    * `Trace.Shows.push`
    * `Exchange.shows_of_fullCalls`
-/

namespace Courier

/- A response as its client reads it. -/
structure Message where
  status : Nat
  headers : WireHeaders
  body : ByteArray

namespace Trace

theorem eq_empty_of_isEmpty
    {bytes : ByteArray}
    (hEmpty : bytes.isEmpty = true) :
    bytes = .empty := by
  apply ByteArray.size_eq_zero_iff.mp
  simpa [ByteArray.isEmpty] using hEmpty

/- The bytes of all chunks, put together. -/
def bodyBytes
    (ss : List Signal) : ByteArray :=
  joined (ss.filterMap Signal.chunk?)

/- What the client sees is just this message. -/
def Shows
    (seen : List Signal)
    (m : Message) : Prop :=
  ∃ rest,
    seen = .head m.status m.headers :: rest ∧
      (∀ s ∈ rest, ¬ s.IsHead) ∧
      bodyBytes rest = m.body

/- A client sees one message. -/
theorem Shows.unique
    {seen : List Signal}
    {m m' : Message}
    (hShows : Shows seen m)
    (hOther : Shows seen m') :
    m = m' := by
  rcases m with ⟨status, headers, body⟩
  rcases m' with ⟨status', headers', body'⟩
  rcases hShows with ⟨rest, rfl, _, hBody⟩
  rcases hOther with ⟨rest', hSeen, _, hBody'⟩
  simp only [List.cons.injEq, Signal.head.injEq] at hSeen
  rcases hSeen with ⟨⟨rfl, rfl⟩, rfl⟩
  rw [hBody] at hBody'
  cases hBody'
  rfl

/- Chunks that are pushed make up the body. -/
@[simp] theorem bodyBytes_pushes
    (chunks : List ByteArray) :
    bodyBytes (pushes chunks) = joined chunks := by
  unfold bodyBytes
  induction chunks with
  | nil => rfl
  | cons chunk rest ih =>
      rw [pushes_cons, joined_cons, ← ih]
      rfl

theorem joined_append
    (chunks rest : List ByteArray) :
    joined (chunks ++ rest) = joined chunks ++ joined rest := by
  induction chunks with
  | nil => simp
  | cons chunk chunks ih => simp [ih, ByteArray.append_assoc]

theorem bodyBytes_append
    (ss later : List Signal) :
    bodyBytes (ss ++ later) = bodyBytes ss ++ bodyBytes later := by
  rw [bodyBytes, List.filterMap_append, joined_append]
  rfl

/- A chunk that is pushed behind a message is part of it. -/
theorem Shows.push
    {seen : List Signal}
    {m : Message}
    (hShows : Shows seen m)
    (chunk : ByteArray) :
    Shows (seen ++ pushes [chunk])
      { m with body := m.body ++ chunk } := by
  rcases hShows with ⟨rest, rfl, hHeads, hBody⟩
  refine ⟨rest ++ pushes [chunk], rfl, ?_, ?_⟩
  · intro s hs
    rcases List.mem_append.mp hs with hOld | hNew
    · exact hHeads s hOld
    · exact not_isHead_of_mem_pushes s hNew
  · rw [bodyBytes_append, hBody, bodyBytes_pushes, joined_cons,
      joined_nil, ByteArray.append_empty]

/- A head and the chunks behind it are a message. -/
theorem shows_pushes
    (status : Nat)
    (headers : WireHeaders)
    (chunks : List ByteArray) :
    Shows (.head status headers :: pushes chunks)
      ⟨status, headers, joined chunks⟩ :=
  ⟨pushes chunks, rfl, not_isHead_of_mem_pushes,
    bodyBytes_pushes chunks⟩

end Trace

namespace Exchange

open Trace

/- A complete response is the message that it was made of. -/
theorem shows_of_fullCalls
    {τ : Type} [Connection τ] [Connection.NeverFails τ]
    {status : Nat}
    {headers : WireHeaders}
    {body : ByteArray}
    {answer : Sent}
    {es : List Event}
    (hCalls : FullCalls status headers body answer es)
    (hAnswered : Answered τ es) :
    Shows (signals es) ⟨status, headers, body⟩ := by
  rcases signals_of_fullCalls hCalls hAnswered with
    ⟨_, rest, hSignals, hHeads, hChunks⟩
  refine ⟨rest, hSignals, hHeads, ?_⟩
  rw [bodyBytes, hChunks]
  by_cases hBody : body.isEmpty
  · rw [if_pos hBody, joined_nil, eq_empty_of_isEmpty hBody]
  · rw [if_neg hBody, joined_cons, joined_nil]
    exact ByteArray.append_empty

end Exchange

end Courier
