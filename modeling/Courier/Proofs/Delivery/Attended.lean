import Courier.Compression.Standard
import Courier.Proofs.Channel.Attended
import Courier.Proofs.Delivery.Lockstep
import Courier.Proofs.Exchange.OpenConnection

/-
  Deliveries over a channel and over a plain connection. A
  channel whose client keeps up is in lockstep with every plain
  connection that never fails, whether that takes a complete
  response in one call or as a head and a write. The client of
  the channel receives just the message that the plain
  connection lets through, and both deliveries end alike.

  Key definitions include:
    * `AttendedChannel.Untouched`
    * `AttendedChannel.KeepsUp`
    * `AttendedChannel.Delivered`
    * `AttendedChannel.lockstep`

  Main statements:
    * `AttendedChannel.together_sendFull`
    * `AttendedChannel.together_writeAndFlush`
    * `Delivery.deliver_attended`
-/

namespace Courier

open Exchange Trace

variable {τ : Type} [Connection τ]

------------------------------------------------------------
-- What is let through
------------------------------------------------------------

namespace Exchange

/- More events let more through. -/
theorem Leads.signals_eq
    {x x' : Exchange τ}
    {es : List Event}
    (hLeads : Leads x es x') :
    signals x'.events = signals x.events ++ signals es := by
  rw [hLeads.events_eq, signals_append]

/- Nothing is let through by a note. -/
omit [Connection τ] in
theorem signals_log
    {e : Event}
    (hNote : e.IsNote)
    (x : Exchange τ) :
    signals (perform (log e) x).2.events = signals x.events := by
  have hSignals : e.signals = [] := by
    cases e <;> simp_all [Event.IsNote, Event.signals]
  have hEvents :
      (perform (log e) x).2.events = x.events ++ [e] :=
    Array.toList_push
  simp [hEvents, hSignals]

end Exchange

namespace AttendedChannel

------------------------------------------------------------
-- Side by side with a plain connection
------------------------------------------------------------

/- Over neither of them anything was sent. -/
structure Untouched
    (x : Exchange τ)
    (y : Exchange AttendedChannel) : Prop where
  headers_eq : y.headers = x.headers
  signals_eq : signals x.events = []
  connection_eq : y.connection = {}

/- The client reads what the plain connection let through. -/
def KeepsUp
    (x : Exchange τ)
    (y : Exchange AttendedChannel) : Prop :=
  ∃ m frames,
    Shows (signals x.events) m ∧
      y.connection = reading ⟨m.status, m.headers⟩ frames ∧
      y.connection.body = m.body

/- The client received what the plain connection let through. -/
def Delivered
    (x : Exchange τ)
    (y : Exchange AttendedChannel) : Prop :=
  ∃ m, Shows (signals x.events) m ∧ y.connection.Received m

section Notes

omit [Connection τ]

theorem keepsNotes_untouched :
    KeepsNotes (Untouched (τ := τ)) := by
  intro e hNote x y h
  refine ⟨rfl, h.headers_eq, ?_, h.connection_eq⟩
  rw [signals_log hNote, h.signals_eq]

theorem keepsNotes_keepsUp :
    KeepsNotes (KeepsUp (τ := τ)) := by
  rintro e hNote x y ⟨m, frames, hShows, hChannel, hBody⟩
  refine ⟨rfl, m, frames, ?_, hChannel, hBody⟩
  rw [signals_log hNote]
  exact hShows

theorem keepsNotes_delivered :
    KeepsNotes (Delivered (τ := τ)) := by
  rintro e hNote x y ⟨m, hShows, hReceived⟩
  refine ⟨rfl, m, ?_, hReceived⟩
  rw [signals_log hNote]
  exact hShows

/- What is read of a message so far may be all of it. -/
theorem delivered_of_keepsUp
    (x : Exchange τ)
    (y : Exchange AttendedChannel)
    (hKeepsUp : KeepsUp x y) :
    Delivered x y := by
  rcases hKeepsUp with ⟨m, frames, hShows, hChannel, hBody⟩
  refine ⟨m, hShows, ?_⟩
  rw [hChannel] at hBody ⊢
  exact received_reading hBody

end Notes

variable [Connection.NeverFails τ]

/- The head goes to both clients. -/
theorem together_sendHead
    (status : Nat) :
    Together Untouched (sendHead status : Act τ _)
      (sendHead status : Act AttendedChannel _)
      (Same KeepsUp) := by
  intro x y h
  rcases perform_sendHead status x with
    ⟨answer, x', hHead, hLeads⟩
  have hAnswer := head_ok (hLeads.answered _ List.mem_cons_self)
  have hChannel := sendHead_untouched status x.headers
  rw [← h.headers_eq, ← h.connection_eq] at hChannel
  subst hAnswer
  rw [hHead]
  refine ⟨congrArg Prod.fst hChannel,
    ⟨status, y.headers, .empty⟩, #[], ?_,
    congrArg Prod.snd hChannel, ?_⟩
  · rw [hLeads.signals_eq, h.signals_eq, h.headers_eq]
    exact ⟨[], rfl, by simp, rfl⟩
  · exact congrArg (·.2.body) hChannel

/- A complete response goes to both clients. -/
theorem together_sendFull
    (status : Nat)
    (body : ByteArray) :
    Together Untouched (sendFull status body : Act τ _)
      (sendFull status body : Act AttendedChannel _)
      (Same Delivered) := by
  rintro x ⟨_, _, trace⟩ ⟨hHeaders, hNone, hFresh⟩
  rcases perform_sendFull status body x with
    ⟨answer, es, x', hFull, hCalls, hLeads⟩
  have hAnswer := (signals_of_fullCalls hCalls hLeads.answered).1
  have hShows := shows_of_fullCalls hCalls hLeads.answered
  have hChannel := sendFull_untouched status x.headers body
  cases hHeaders
  cases hFresh
  let y : Exchange AttendedChannel := ⟨{}, x.headers, trace⟩
  have hServed :
      (perform (sendFull status body) y).2.connection =
        served ⟨status, x.headers⟩ body :=
    congrArg Prod.snd hChannel
  have hReceived := received_served ⟨status, x.headers, body⟩
  rw [← hServed] at hReceived
  rw [hFull]
  refine ⟨?_, ⟨status, x.headers, body⟩, ?_, hReceived⟩
  · exact (congrArg Prod.fst hChannel).trans hAnswer.symm
  · rw [hLeads.signals_eq, hNone]
    exact hShows

/- The client of the channel takes the chunk. -/
theorem perform_writeAndFlush_reading
    {y : Exchange AttendedChannel}
    {head : ReceivedHead}
    {frames : Array ByteArray}
    (hReading : y.connection = reading head frames)
    (chunk : ByteArray) :
    (perform (writeAndFlush chunk) y).1 = .ok () ∧
      (perform (writeAndFlush chunk) y).2.connection =
        reading head (frames.push chunk) := by
  have hWrite := write_reading chunk head frames
  rw [← hReading] at hWrite
  have hStep :
      perform (write chunk) y =
        (.ok (),
          { y with
            connection := reading head (frames.push chunk)
            trace := y.trace.push (.write chunk (.ok ())) }) := by
    simp only [perform, write, StateT.run, hWrite]
  have hFlush := flush_reading head (frames.push chunk)
  rw [writeAndFlush, perform_bind_of_eq hStep]
  exact ⟨congrArg Prod.fst hFlush, congrArg Prod.snd hFlush⟩

/- A chunk goes to both clients. -/
theorem together_writeAndFlush
    (chunk : ByteArray) :
    Together KeepsUp (writeAndFlush chunk : Act τ _)
      (writeAndFlush chunk : Act AttendedChannel _)
      (Same KeepsUp) := by
  rintro x y ⟨m, frames, hShows, hReading, hBody⟩
  rcases perform_writeAndFlush chunk x with
    ⟨answer, es, x', hWrite, hCalls, hLeads⟩
  rcases signals_of_chunkCalls hCalls hLeads.answered with
    ⟨rfl, hSignals⟩
  rcases perform_writeAndFlush_reading hReading chunk with
    ⟨hAnswer, hNext⟩
  rw [hWrite]
  refine ⟨hAnswer, { m with body := m.body ++ chunk },
    frames.push chunk, ?_, hNext, ?_⟩
  · rw [hLeads.signals_eq, hSignals]
    exact hShows.push chunk
  · rw [hNext, body_push, ← hReading, hBody]

/- Neither client goes away. -/
theorem together_isClosed :
    Together KeepsUp (isClosed : Act τ _)
      (isClosed : Act AttendedChannel _) (Same KeepsUp) := by
  rintro x y ⟨m, frames, hShows, hReading, hBody⟩
  rcases perform_isClosed x with ⟨closed, x', hAsk, hLeads⟩
  have hOpen :=
    asked_false (hLeads.answered _ List.mem_cons_self)
  have hThere :=
    isClosed_reading ⟨m.status, m.headers⟩ frames
  rw [← hReading] at hThere
  have hStays := congrArg Prod.snd hThere
  subst hOpen
  rw [hAsk]
  refine ⟨congrArg Prod.fst hThere, m, frames, ?_,
    hStays.trans hReading, (congrArg body hStays).trans hBody⟩
  rw [hLeads.signals_eq]
  simpa [Event.signals] using hShows

/- A plain connection and a channel, step by step. -/
def lockstep
    (τ : Type)
    [Connection τ] [Connection.NeverFails τ] :
    Lockstep τ AttendedChannel where
  Unsent := Untouched
  Streaming := KeepsUp
  Complete := Delivered
  edit change x y h :=
    { headers_eq := congrArg (applyEdit · change) h.headers_eq
      signals_eq := by
        rw [(leads_editHeaders change x).signals_eq,
          h.signals_eq]
        rfl
      connection_eq := h.connection_eq }
  notes_unsent := keepsNotes_untouched
  notes_streaming := keepsNotes_keepsUp
  notes_complete := keepsNotes_delivered
  sendHead := together_sendHead
  sendFull := together_sendFull
  writeAndFlush := together_writeAndFlush
  isClosed := together_isClosed
  complete := delivered_of_keepsUp

end AttendedChannel

------------------------------------------------------------
-- Every delivery
------------------------------------------------------------

namespace Delivery

/-
  A dated response is delivered over a plain connection that
  never fails and over a channel whose client keeps up. Both
  deliveries end with the same result, and what is let through
  over the one is a message that is received over the other.
-/
theorem deliver_attended
    {σ : Type} [ByteSource σ]
    [Connection.NeverFails τ]
    {r : Response σ}
    (hHandler : r.handler = none)
    (hDated : Dated r.cookies)
    (d : Delivery)
    (q : RequestHead)
    (c : τ) :
    let x := Exchange.start c
    let plain := perform (d.deliver r q) x
    let attended :=
      perform (d.deliver r q) (.start ({} : AttendedChannel))
    attended.1 = plain.1 ∧
      ∃ m,
        Shows (signals (since x plain.2)) m ∧
          attended.2.connection.Received m := by
  intro x plain attended
  have hUntouched :
      AttendedChannel.Untouched x (.start {}) :=
    ⟨rfl, rfl, rfl⟩
  exact together_deliver (AttendedChannel.lockstep τ) hHandler
    hDated d q x (.start {}) hUntouched

/- A producer that writes twice and asks in between. -/
theorem deliver_attended_of_producer :
    let producer : Producer :=
      .write "one".toUTF8 fun _ => .isClosed fun _ =>
        .write "two".toUTF8 fun _ => .done { result := .ok () }
    let r : Response MemorySource :=
      { status := 200, payload := .producer producer }
    let d : Delivery := { codec := { compressor := .standard } }
    let q : RequestHead := .ofParts "GET" "/" []
    let x : Exchange OpenConnection := .start .fresh
    let plain := perform (d.deliver r q) x
    let attended :=
      perform (d.deliver r q) (.start ({} : AttendedChannel))
    attended.1 = plain.1 ∧
      ∃ m,
        Shows (signals (since x plain.2)) m ∧
          attended.2.connection.Received m := by
  have hDated : Dated [] := by decide
  exact deliver_attended rfl hDated _ _ OpenConnection.fresh

end Delivery

end Courier
