import Courier.Connection.Planned
import Courier.Proofs.Delivery.Holders

/-
  The accounts of a writer that is shared by everybody who holds
  it. The calls on it are taken one at a time, so that a run is
  a list of turns; what the connection was called for, what was
  answered, and what is counted all follow from the turns. The
  stream itself takes two turns, one for the count and one for
  the client, and others may get to the writer in between.

  Key definitions include:
    * `Pushed.Turn`
    * `Pushed.Serves`
    * `Pushed.Accounts`
    * `Pushed.Settles`

  Main statements:
    * `Pushed.Runs.serves`
    * `Pushed.Serves.sent_eq`
    * `Pushed.Serves.closed_iff`
    * `Pushed.Serves.accounts`
    * `Pushed.stream_accounts`
-/

namespace Courier.Pushed

open Exchange Trace

variable {τ : Type} [Connection τ]

------------------------------------------------------------
-- Turns
------------------------------------------------------------

/- A call and the events that it caused before its answer. -/
structure Turn where
  call : Call
  events : List Event

/- A turn as it stands in a trace. -/
def Turn.trace
    (t : Turn) : List Event :=
  t.events ++ [.reply t.call.reply]

/- The turns as they stand in a trace. -/
def traced
    (turns : List Turn) : List Event :=
  turns.flatMap Turn.trace

/- The chunks of the writes that found the client there. -/
def delivered
    (turns : List Turn) : List ByteArray :=
  turns.filterMap fun t => t.call.delivered?

/- Some write was told that the client is gone. -/
def Refused
    (turns : List Turn) : Prop :=
  ∃ t ∈ turns, t.call.IsRefused

/- Chunks that were written whole, each followed by a flush. -/
def wholeWrites
    (chunks : List ByteArray) : List Event :=
  chunks.flatMap fun chunk =>
    [.write chunk (.ok ()), .flush (.ok ())]

@[simp] theorem traced_cons
    (t : Turn)
    (turns : List Turn) :
    traced (t :: turns) =
      t.events ++ .reply t.call.reply :: traced turns := by
  simp [traced, Turn.trace]

theorem traced_append
    (turns later : List Turn) :
    traced (turns ++ later) = traced turns ++ traced later :=
  List.flatMap_append

@[simp] theorem delivered_cons
    (t : Turn)
    (turns : List Turn) :
    delivered (t :: turns) =
      t.call.delivered?.toList ++ delivered turns := by
  cases hChunk : t.call.delivered? <;>
    simp [delivered, hChunk]

theorem wholeWrites_append
    (chunks rest : List ByteArray) :
    wholeWrites (chunks ++ rest) =
      wholeWrites chunks ++ wholeWrites rest := by
  simp [wholeWrites]

theorem refused_cons
    {t : Turn}
    {turns : List Turn} :
    Refused (t :: turns) ↔
      t.call.IsRefused ∨ Refused turns := by
  simp [Refused]

------------------------------------------------------------
-- One turn
------------------------------------------------------------

section Asks

variable {w : Writer} {closed : Bool} {es : List Event}

/- The writer answers for a connection that it gave up. -/
theorem Asks.known_or_asked
    (h : Asks w closed es) :
    w.closed = true ∧ closed = true ∧ es = [] ∨
      w.closed = false ∧ es = [.asked closed] := by
  cases h with
  | known hClosed => exact Or.inl ⟨hClosed, rfl, rfl⟩
  | asked hOpen => exact Or.inr ⟨hOpen, rfl⟩

theorem Asks.of_closed
    (h : Asks w closed es)
    (hClosed : w.closed = true) :
    closed = true ∧ es = [] := by
  rcases h.known_or_asked with hKnown | ⟨hOpen, _⟩
  · exact hKnown.2
  · simp [hClosed] at hOpen

/- Only the connection says that the client is there. -/
theorem Asks.eq_true
    (h : Asks w closed es)
    (hNever : .asked false ∉ es) :
    closed = true := by
  rcases h.known_or_asked with ⟨_, hTrue, _⟩ | ⟨_, rfl⟩
  · exact hTrue
  · simpa using hNever

end Asks

/- What a turn does to what the writer knows. -/
inductive Takes
    (w : Writer) : Turn → Writer → Prop where
  | write
      {chunk : ByteArray} {closed : Bool} {w' : Writer}
      {es : List Event}
      (hChunk : WritesChunk chunk w closed w' es) :
      Takes w ⟨.write chunk closed, es⟩ w'
  | sent :
      Takes w ⟨.sent w.sent, []⟩ w
  | isClosed
      {closed : Bool} {es : List Event}
      (hAsks : Asks w closed es) :
      Takes w ⟨.isClosed closed, es⟩ w

namespace Takes

variable {w w' : Writer} {t : Turn}

/- A chunk that was delivered is counted. -/
theorem sent_eq
    (h : Takes w t w') :
    w'.sent = w.sent + total t.call.delivered?.toList := by
  cases h with
  | write hChunk => cases hChunk <;> simp [Call.delivered?]
  | sent => simp [Call.delivered?]
  | isClosed => simp [Call.delivered?]

/- The writer knows of a client that is gone from its writes. -/
theorem closed_iff
    (h : Takes w t w') :
    w'.closed = true ↔ w.closed = true ∨ t.call.IsRefused := by
  cases h with
  | write hChunk => cases hChunk <;> simp [Call.IsRefused]
  | sent => simp [Call.IsRefused]
  | isClosed => simp [Call.IsRefused]

/-
  The connection is called for a whole chunk that was delivered,
  or for one whose write or flush failed.
-/
theorem calls_eq
    (h : Takes w t w') :
    calls t.events = wholeWrites t.call.delivered?.toList ∨
      ∃ chunk e,
        t.call = .write chunk true ∧
          ChunkCalls chunk (.error e) (calls t.events) := by
  cases h with
  | sent => exact Or.inl rfl
  | isClosed hAsks => exact Or.inl hAsks.calls_eq_nil
  | @write chunk _ _ _ hChunk =>
      cases hChunk with
      | gone hAsks => exact Or.inl hAsks.calls_eq_nil
      | @failed e _ _ hAsks hCalls =>
          refine Or.inr ⟨chunk, e, rfl, ?_⟩
          rw [calls_append, hAsks.calls_eq_nil, hCalls.calls_eq]
          exact hCalls
      | sent hAsks =>
          refine Or.inl ?_
          simp [hAsks.calls_eq_nil, Event.IsHead, Event.IsSend,
            Call.delivered?, wholeWrites]

/- A writer that knows that the client is gone calls nothing. -/
theorem of_closed
    (h : Takes w t w')
    (hClosed : w.closed = true) :
    t.events = [] ∧ t.call.Denies := by
  cases h with
  | sent => exact ⟨rfl, trivial⟩
  | isClosed hAsks =>
      rcases hAsks.of_closed hClosed with ⟨hTrue, hNone⟩
      exact ⟨hNone, hTrue⟩
  | write hChunk =>
      cases hChunk with
      | gone hAsks => exact ⟨(hAsks.of_closed hClosed).2, rfl⟩
      | failed hAsks => cases (hAsks.of_closed hClosed).1
      | sent hAsks => cases (hAsks.of_closed hClosed).1

/- A connection that does not say it is open is not called. -/
theorem denied
    (h : Takes w t w')
    (hNever : .asked false ∉ t.events) :
    calls t.events = [] ∧ t.call.Denies := by
  cases h with
  | sent => exact ⟨rfl, trivial⟩
  | isClosed hAsks =>
      exact ⟨hAsks.calls_eq_nil, hAsks.eq_true hNever⟩
  | write hChunk =>
      cases hChunk with
      | gone hAsks => exact ⟨hAsks.calls_eq_nil, rfl⟩
      | failed hAsks =>
          cases hAsks.eq_true
            fun hMem => hNever (List.mem_append_left _ hMem)
      | sent hAsks =>
          cases hAsks.eq_true
            fun hMem => hNever (List.mem_append_left _ hMem)

/-
  A write is told that the client is gone when the writer knew,
  when the connection said so, or when the chunk was broken off.
-/
theorem refused
    (h : Takes w t w')
    (hRefused : t.call.IsRefused) :
    w.closed = true ∨ .asked true ∈ t.events ∨
      ∃ e ∈ t.events, e.IsFailure := by
  cases h with
  | sent => exact hRefused.elim
  | isClosed => exact hRefused.elim
  | write hChunk =>
      cases hChunk with
      | gone hAsks =>
          cases hAsks with
          | known hClosed => exact Or.inl hClosed
          | asked => exact Or.inr (Or.inl List.mem_cons_self)
      | failed _ hCalls =>
          refine Or.inr (Or.inr ?_)
          cases hCalls with
          | unwritten =>
              exact ⟨_, List.mem_append_right _
                List.mem_cons_self, trivial⟩
          | written =>
              exact ⟨_, List.mem_append_right _
                (List.mem_cons_of_mem _ List.mem_cons_self),
                trivial⟩
      | sent => exact hRefused.elim

/- Whoever asks for the count is told it. -/
theorem eq_sent
    (h : Takes w t w')
    {bytes : Nat}
    (hCall : t.call = .sent bytes) :
    bytes = w.sent := by
  cases h with
  | write => cases hCall
  | sent => cases hCall; rfl
  | isClosed => cases hCall

/- Whoever asks is told what the writer knows, or hears. -/
theorem asked
    (h : Takes w t w')
    {closed : Bool}
    (hCall : t.call = .isClosed closed) :
    w.closed = true ∧ closed = true ∧ t.events = [] ∨
      w.closed = false ∧ t.events = [.asked closed] := by
  cases h with
  | write => cases hCall
  | sent => cases hCall
  | isClosed hAsks =>
      cases hCall
      exact hAsks.known_or_asked

end Takes

------------------------------------------------------------
-- All turns
------------------------------------------------------------

/- Turns that are taken one after the other. -/
inductive Serves : Writer → List Turn → Writer → Prop where
  | nil
      {w : Writer} :
      Serves w [] w
  | cons
      {w w' w'' : Writer} {t : Turn} {turns : List Turn}
      (hTurn : Takes w t w')
      (hRest : Serves w' turns w'') :
      Serves w (t :: turns) w''

/- A run is the turns of the calls that are made. -/
theorem Runs.serves
    {α : Type} {tree : CallTree α} {w w' : Writer}
    {es : List Event} {value : α}
    (h : Runs tree w es value w') :
    ∃ turns,
      es = traced turns ∧
        Makes tree (turns.map Turn.call) (.done value) ∧
        Serves w turns w' := by
  induction h with
  | done => exact ⟨[], rfl, .nil, .nil⟩
  | @write chunk _ _ _ _ closed es _ _ hChunk _ ih =>
      rcases ih with ⟨turns, rfl, hMakes, hServes⟩
      exact ⟨⟨.write chunk closed, es⟩ :: turns,
        by simp [Call.reply], .cons (.write closed) hMakes,
        .cons (.write hChunk) hServes⟩
  | @sent _ w _ _ _ _ ih =>
      rcases ih with ⟨turns, rfl, hMakes, hServes⟩
      exact ⟨⟨.sent w.sent, []⟩ :: turns,
        by simp [Call.reply], .cons (.sent w.sent) hMakes,
        .cons .sent hServes⟩
  | @isClosed _ _ _ closed es _ _ hAsks _ ih =>
      rcases ih with ⟨turns, rfl, hMakes, hServes⟩
      exact ⟨⟨.isClosed closed, es⟩ :: turns,
        by simp [Call.reply], .cons (.isClosed closed) hMakes,
        .cons (.isClosed hAsks) hServes⟩

namespace Serves

variable {w w' : Writer} {turns : List Turn}

theorem append
    {w'' : Writer} {later : List Turn}
    (h : Serves w turns w')
    (hLater : Serves w' later w'') :
    Serves w (turns ++ later) w'' := by
  induction h with
  | nil => exact hLater
  | cons hTurn _ ih => exact .cons hTurn (ih hLater)

/- Around each turn there are those before and those behind. -/
theorem split
    {before after : List Turn}
    {t : Turn}
    (h : Serves w (before ++ t :: after) w') :
    ∃ w₁ w₂,
      Serves w before w₁ ∧ Takes w₁ t w₂ ∧
        Serves w₂ after w' := by
  induction before generalizing w with
  | nil =>
      cases h with
      | cons hTurn hRest => exact ⟨w, _, .nil, hTurn, hRest⟩
  | cons first before ih =>
      cases h with
      | cons hFirst hRest =>
          rcases ih hRest with ⟨w₁, w₂, hBefore, hTurn, hAfter⟩
          exact ⟨w₁, w₂, .cons hFirst hBefore, hTurn, hAfter⟩

/- The writer counts the bytes that were delivered. -/
theorem sent_eq
    (h : Serves w turns w') :
    w'.sent = w.sent + total (delivered turns) := by
  induction h with
  | nil => rfl
  | cons hTurn _ ih =>
      rw [ih, hTurn.sent_eq, delivered_cons, total_append,
        Nat.add_assoc]

/- The writer knows that the client is gone from its writes. -/
theorem closed_iff
    (h : Serves w turns w') :
    w'.closed = true ↔ w.closed = true ∨ Refused turns := by
  induction h with
  | nil => simp [Refused]
  | cons hTurn _ ih =>
      rw [ih, hTurn.closed_iff, refused_cons, or_assoc]

theorem closed_iff_of_fresh
    (h : Serves {} turns w) :
    w.closed = true ↔ Refused turns := by
  simpa using h.closed_iff

/- Once the writer knows, nobody gets to the connection. -/
theorem of_closed
    (h : Serves w turns w')
    (hClosed : w.closed = true) :
    ∀ t ∈ turns, t.events = [] ∧ t.call.Denies := by
  induction h with
  | nil => simp
  | cons hTurn _ ih =>
      intro u hu
      rcases List.mem_cons.mp hu with rfl | hRest
      · exact hTurn.of_closed hClosed
      · exact ih (hTurn.closed_iff.mpr (Or.inl hClosed)) u hRest

/- While the connection is not open nothing is sent. -/
theorem denied
    (h : Serves w turns w')
    (hNever : .asked false ∉ traced turns) :
    ∀ t ∈ turns, calls t.events = [] ∧ t.call.Denies := by
  induction h with
  | nil => simp
  | cons hTurn _ ih =>
      simp only [traced_cons, List.mem_append, List.mem_cons,
        not_or] at hNever
      intro u hu
      rcases List.mem_cons.mp hu with rfl | hRest
      · exact hTurn.denied hNever.1
      · exact ih hNever.2.2 u hRest

/- Once the writer knows, nothing is sent or delivered. -/
theorem eq_nil_of_closed
    (h : Serves w turns w')
    (hClosed : w.closed = true) :
    calls (traced turns) = [] ∧ delivered turns = [] := by
  induction h with
  | nil => exact ⟨rfl, rfl⟩
  | cons hTurn _ ih =>
      rcases hTurn.of_closed hClosed with ⟨hEvents, hDenies⟩
      rcases ih (hTurn.closed_iff.mpr (Or.inl hClosed)) with
        ⟨hCalls, hDelivered⟩
      constructor
      · simp [hEvents, hCalls, Event.IsHead, Event.IsSend]
      · simp [hDenies.delivered?_eq, hDelivered]

/- What is sent are the chunks delivered, and a broken one. -/
theorem calls_eq
    (h : Serves w turns w') :
    ∃ broken,
      calls (traced turns) =
          wholeWrites (delivered turns) ++ broken ∧
        (broken = [] ∨
          ∃ chunk e,
            (∃ t ∈ turns, t.call = .write chunk true) ∧
              ChunkCalls chunk (.error e) broken) := by
  induction h with
  | nil => exact ⟨[], rfl, Or.inl rfl⟩
  | @cons _ _ _ t turns hTurn hRest ih =>
      have hCalls :
          calls (traced (t :: turns)) =
            calls t.events ++ calls (traced turns) := by
        simp [Event.IsHead, Event.IsSend]
      rcases hTurn.calls_eq with
        hWhole | ⟨chunk, e, hCall, hBroken⟩
      · rcases ih with ⟨broken, hLater, hLast⟩
        refine ⟨broken, ?_, ?_⟩
        · rw [hCalls, hWhole, hLater, delivered_cons,
            wholeWrites_append, List.append_assoc]
        · rcases hLast with hNone | ⟨chunk, e, hMem, hBroken⟩
          · exact Or.inl hNone
          · rcases hMem with ⟨u, hu, hCall⟩
            exact Or.inr ⟨chunk, e,
              ⟨u, List.mem_cons_of_mem _ hu, hCall⟩, hBroken⟩
      · -- a chunk that is broken off is the last to be written
        have hRefused : t.call.IsRefused := by
          rw [hCall]
          trivial
        rcases hRest.eq_nil_of_closed
            (hTurn.closed_iff.mpr (Or.inr hRefused)) with
          ⟨hLater, hDelivered⟩
        refine ⟨calls t.events, ?_, Or.inr ⟨chunk, e,
          ⟨t, List.mem_cons_self, hCall⟩, hBroken⟩⟩
        rw [hCalls, hLater, delivered_cons, hDelivered, hCall]
        simp [Call.delivered?, wholeWrites]

end Serves

------------------------------------------------------------
-- The accounts
------------------------------------------------------------

/-
  What everybody who holds the writer can rely on, and what the
  connection was called for in these turns.
-/
structure Accounts
    (turns : List Turn) : Prop where
  -- the connection
  sends :
    ∃ broken,
      calls (traced turns) =
          wholeWrites (delivered turns) ++ broken ∧
        (broken = [] ∨
          ∃ chunk e,
            (∃ t ∈ turns, t.call = .write chunk true) ∧
              ChunkCalls chunk (.error e) broken)
  -- the answers
  counts :
    ∀ before t after, turns = before ++ t :: after →
      ∀ bytes, t.call = .sent bytes →
        bytes = total (delivered before)
  refuses :
    ∀ before t after, turns = before ++ t :: after →
      t.call.IsRefused →
        Refused before ∨ .asked true ∈ t.events ∨
          ∃ e ∈ t.events, e.IsFailure
  asks :
    ∀ before t after, turns = before ++ t :: after →
      ∀ closed, t.call = .isClosed closed →
        Refused before ∧ closed = true ∧ t.events = [] ∨
          ¬ Refused before ∧ t.events = [.asked closed]
  -- a client that is gone
  silent :
    ∀ before t after, turns = before ++ t :: after →
      t.call.IsRefused →
        ∀ u ∈ after, u.events = [] ∧ u.call.Denies
  departed :
    (∀ front back,
      traced turns = front ++ .asked true :: back →
        .asked false ∉ back) →
      ∀ before t after, turns = before ++ t :: after →
        t.call = .isClosed true →
          ∀ u ∈ after, calls u.events = [] ∧ u.call.Denies

/- The accounts of a writer that starts afresh. -/
theorem Serves.accounts
    {turns : List Turn} {w : Writer}
    (h : Serves {} turns w) :
    Accounts turns where
  sends := h.calls_eq
  counts before t after hTurns bytes hCall := by
    subst hTurns
    rcases h.split with ⟨w₁, w₂, hBefore, hTurn, _⟩
    have hSent := hBefore.sent_eq
    rw [Nat.zero_add] at hSent
    rw [← hSent]
    exact hTurn.eq_sent hCall
  refuses before t after hTurns hRefused := by
    subst hTurns
    rcases h.split with ⟨w₁, w₂, hBefore, hTurn, _⟩
    rw [← hBefore.closed_iff_of_fresh]
    exact hTurn.refused hRefused
  asks before t after hTurns closed hCall := by
    subst hTurns
    rcases h.split with ⟨w₁, w₂, hBefore, hTurn, _⟩
    rw [← hBefore.closed_iff_of_fresh, Bool.not_eq_true]
    exact hTurn.asked hCall
  silent before t after hTurns hRefused := by
    subst hTurns
    rcases h.split with ⟨w₁, w₂, _, hTurn, hAfter⟩
    exact hAfter.of_closed
      (hTurn.closed_iff.mpr (Or.inr hRefused))
  departed hStays before t after hTurns hCall := by
    subst hTurns
    rcases h.split with ⟨w₁, w₂, _, hTurn, hAfter⟩
    rcases hTurn.asked hCall with
      ⟨hClosed, _, _⟩ | ⟨_, hEvents⟩
    · intro u hu
      rcases hAfter.of_closed
          (hTurn.closed_iff.mpr (Or.inl hClosed)) u hu with
        ⟨hNone, hDenies⟩
      exact ⟨by simp [hNone], hDenies⟩
    · apply hAfter.denied
      have hSplit :
          traced (before ++ t :: after) =
            traced before ++ .asked true ::
              (.reply t.call.reply :: traced after) := by
        simp [traced, Turn.trace, hEvents]
      exact fun hMem =>
        hStays _ _ hSplit (List.mem_cons_of_mem _ hMem)

------------------------------------------------------------
-- The whole stream
------------------------------------------------------------

/-
  The question at the end: the connection is asked whether the
  client stayed, unless some write was told that it is gone.
-/
def Settles
    (turns : List Turn)
    (closed : Bool)
    (ending : List Event) : Prop :=
  Refused turns ∧ closed = true ∧ ending = [] ∨
    ¬ Refused turns ∧ ending = [.asked closed]

/-
  A head that cannot be sent is the end of it. Behind a head
  that was sent, calls are made on the writer: those up to the
  lookup of the bytes sent, with which the handler ends, those
  between this and the question for the client, and those that
  come later still. The accounts of the writer are right for all
  of them. The result has the bytes of the chunks that had been
  delivered at the lookup, and a client that is gone when some
  write before the question was told so, or the connection is.

  When a handler and clones share the writer, in any order, each
  of them makes its own calls.
-/
theorem stream_accounts
    (status : Nat)
    (contentType : Option String)
    (settings : StreamSettings)
    (producer : Producer)
    (x : Exchange τ) :
    let out :=
      perform (stream status contentType settings producer) x
    let edits := pushEdits contentType settings
    let headers := applyEdits x.headers edits
    (∃ e,
      since x out.2 =
          edits.map .edit ++ [.head status headers (.error e)] ∧
        out.1 = .error (.send e)) ∨
      ∃ before between after ending rest closed asked,
        since x out.2 =
            edits.map .edit ++
              .head status headers (.ok ()) ::
                (traced (before ++ between) ++ asked
                  ++ traced after) ∧
          Makes producer (before.map Turn.call)
            (.done ending) ∧
          Makes ending.later (between.map Turn.call)
            (.done rest) ∧
          Makes rest (after.map Turn.call) (.done ()) ∧
          Accounts (before ++ between ++ after) ∧
          Settles (before ++ between) closed asked ∧
          out.1 =
            ended ending.result closed
              (total (delivered before)) ∧
          ∀ handler clones order,
            producer = together handler clones order →
              SharedBy handler clones ending.result
                (before.map Turn.call)
                ((between ++ after).map Turn.call) := by
  rcases perform_stream status contentType settings producer x with
    ⟨result, answer, es, x', hStream, hFollows, hLeads⟩
  rw [hStream]
  simp only [hLeads.since_eq]
  cases hFollows with
  | unsent e => exact Or.inl ⟨e, rfl, rfl⟩
  | @pushed _ _ asked _ ending rest w w' w'' closed hRuns hLater
      hAsks hRest =>
      rcases hRuns.serves with
        ⟨before, rfl, hFirst, hServes₁⟩
      rcases hLater.serves with
        ⟨between, rfl, hBetween, hServes₂⟩
      rcases hRest.serves with ⟨after, rfl, hAfter, hServes₃⟩
      have hSent : w.sent = total (delivered before) := by
        rw [hServes₁.sent_eq, Nat.zero_add]
      have hAsked := hServes₁.append hServes₂
      refine Or.inr ⟨before, between, after, ending, rest,
        closed, asked, ?_, hFirst, hBetween, hAfter,
        (hAsked.append hServes₃).accounts, ?_,
        by rw [hSent], ?_⟩
      · rw [traced_append]
      · rw [Settles, ← hAsked.closed_iff_of_fresh,
          Bool.not_eq_true]
        exact hAsks.known_or_asked
      · rintro handler clones order rfl
        rw [List.map_append]
        exact sharedBy_of_together hFirst hBetween hAfter

/-
  A clone that gets to the writer behind the lookup: its chunk
  is sent too, but the result has the three bytes of the first.
-/
example :
    let handler : CallTree (Except String Unit) :=
      .write "one".toUTF8 fun _ => .done (.ok ())
    let clone : CallTree Unit :=
      .write "three".toUTF8 fun _ => .done ()
    let x : Exchange PlannedConnection := .start {}
    let out :=
      perform
        (afterHead (together handler [clone] [0, 0, 1, 0])
          (.ok ())) x
    out.1.toOption = some (.completed 3) ∧
      written (since x out.2) =
        ["one".toUTF8, "three".toUTF8] := by
  decide +kernel

end Courier.Pushed
