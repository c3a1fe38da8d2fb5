import Courier.Proofs.Channel.Ends

/-
  What a channel promises to both of its ends, whatever they do
  and whoever leaves first: one head is handed over, with the
  headers that were set before it, and the chunks that the
  client polls are those that were accepted, in order, with at
  most five of them waiting.

  Key definitions include:
    * `Channel.waiting`
    * `Channel.Safe`

  Main statements:
    * `Channel.step_of_first`
    * `Channel.step_of_later`
    * `Channel.takeResponse_of_sent`
    * `Channel.frames_prefix_accepted`
    * `Channel.length_waiting_le`
    * `Channel.write_of_streamed`
    * `Channel.run_takeFrame_of_dropped`
    * `Channel.safe_after`
-/

namespace Courier.Channel

variable {c c' : Channel} {s : Step} {answer : StepAnswer}
variable {steps : List Step}

------------------------------------------------------------
-- The head
------------------------------------------------------------

/- An attempt hands over some body with its head. -/
theorem step_eq_handOver
    (hAlive : c.senderAlive = true)
    (hAttempt : s.IsAttempt) :
    ∃ status body opens,
      c.step s =
        (.sent (.ready (c.handOver status body opens).1),
          (c.handOver status body opens).2) := by
  cases s with
  | sendHead status =>
      refine ⟨status, .queued, true, ?_⟩
      simp [step, sendingStep, sendHead, hAlive]
  | sendFull status body =>
      refine ⟨status, .once (.once body), false, ?_⟩
      simp [step, sendingStep, sendFull, hAlive]
  | _ => exact hAttempt.elim

/-
  The first attempt succeeds when the client waits: it neither
  asked for the response nor gave it up.
-/
theorem step_of_first
    (hAlive : .dropSender ∉ steps)
    (hTake : .takeResponse ∉ steps)
    (hDrop : .dropPending ∉ steps)
    (hFirst : ∀ s ∈ steps, ¬ s.IsAttempt)
    (hAttempt : s.IsAttempt) :
    ((after steps).step s).1 = .sent (.ready (.ok ())) := by
  have hUnsent : (after steps).headUnsent = true := by
    rw [← Bool.not_eq_false, headUnsent_after_iff hAlive]
    rintro ⟨f, hf, hBefore⟩
    exact hFirst f hf hBefore
  have hWaiting : (after steps).receiver = .waiting := by
    rcases offered_after hTake hDrop with
      hOffered | ⟨head, body, hReady⟩
    · exact hOffered
    · exact absurd hReady
        (((headBooks steps).untouched hUnsent).receiver_ne.1 head
          body)
  rcases step_eq_handOver (senderAlive_after_iff.mpr hAlive)
      hAttempt with
    ⟨status, body, opens, hStep⟩
  rw [hStep, handOver_of_waiting _ _ _ hUnsent hWaiting]

/- Every other attempt is refused and leaves no trace. -/
theorem step_of_later
    (hAlive : .dropSender ∉ steps)
    (hBefore : ∃ s ∈ steps, s.IsAttempt)
    (hAttempt : s.IsAttempt) :
    (after steps).step s =
      (.sent (.ready (.error (.io .headAlreadySent))),
        after steps) := by
  rcases step_eq_handOver (senderAlive_after_iff.mpr hAlive)
      hAttempt with
    ⟨status, body, opens, hStep⟩
  rw [hStep, handOver_of_spent _ _ _
    ((headUnsent_after_iff hAlive).mpr hBefore)]

/- A client that waits for what was sent receives it. -/
theorem takeResponse_of_sent
    (hTake : .takeResponse ∉ steps)
    (hDrop : .dropPending ∉ steps)
    (hSent : sent (history steps) ≠ []) :
    ∃ head hint,
      HandsOver (history steps) head ∧
        ((after steps).step .takeResponse).1 =
          .answered (.response head hint) := by
  rcases offered_after hTake hDrop with
    hWaiting | ⟨head, body, hReady⟩
  · exact absurd hWaiting
      ((headBooks steps).spent (headUnsent_of_sent hSent))
  · refine ⟨head, body.hint,
      (headBooks steps).ready head body hReady, ?_⟩
    simp [step, takeResponse, hReady]

------------------------------------------------------------
-- The chunks
------------------------------------------------------------

/- The accepted chunks that the client did not poll. -/
def waiting
    (log : List Entry) : List ByteArray :=
  (accepted log).drop (frames log).length

/- What waits is in the queue while the client holds it. -/
theorem waiting_eq_queue
    (hStreamed : IsStreamed (history steps))
    (hHeld : (after steps).receiver ≠ .gone) :
    waiting (history steps) = (after steps).queue := by
  cases chunkBooks steps with
  | closed hNone => exact absurd hStreamed hNone
  | dropped _ hGone => exact absurd hGone hHeld
  | held _ _ hChunks => simp [waiting, hChunks]

/- A chunk that is not accepted leaves no trace. -/
theorem eq_of_not_accepted
    {chunk : ByteArray}
    (hMoves : Moves c (.write chunk) answer c')
    (hRefused : answer ≠ .sent (.ready (.ok ()))) :
    c' = c := by
  cases hMoves with
  | edited _ hHeader => exact hHeader.elim
  | lost _ hAttempt => exact hAttempt.elim
  | queued => exact absurd rfl hRefused
  | gaveUp _ hStep =>
      rcases hStep with hStep | hStep <;> cases hStep
  | refused => rfl
  | idle => rfl

/-
  Once nothing more is written, what waits is polled in order,
  and then the end, however often it is asked for.
-/
theorem run_takeFrame
    (hReading : c.receiver = .reading .queued)
    (hShut : c.bodyOpen = false)
    (n : Nat) :
    (c.run (.replicate (c.queue.length + n) .takeFrame)).1 =
      c.queue.map (fun chunk => .taken (.frame (.ok chunk))) ++
        .replicate n (.taken .ended) := by
  induction hQueue : c.queue generalizing c with
  | nil =>
      have hEnded : c.step .takeFrame = (.taken .ended, c) := by
        simp [step, takeFrame, hReading, hQueue, hShut]
      simp only [List.length_nil, Nat.zero_add, List.map_nil,
        List.nil_append]
      induction n with
      | zero => rfl
      | succ n ih =>
          rw [List.replicate_succ, List.replicate_succ, run,
            hEnded]
          simp only
          rw [ih]
  | cons chunk rest ih =>
      have hTaken :
          c.step .takeFrame =
            (.taken (.frame (.ok chunk)),
              { c with queue := rest, parked := false }) := by
        simp [step, takeFrame, hReading, hQueue]
      have hRest :=
        @ih { c with queue := rest, parked := false } hReading
          hShut rfl
      rw [List.length_cons, Nat.succ_add_eq_add_succ,
        Nat.add_succ, List.replicate_succ, run, hTaken,
        List.map_cons, List.cons_append]
      exact congrArg _ hRest

/- The chunks that were polled were accepted first. -/
theorem frames_prefix_accepted
    (hStreamed : IsStreamed (history steps)) :
    frames (history steps) <+: accepted (history steps) := by
  cases chunkBooks steps with
  | closed hNone => exact absurd hStreamed hNone
  | held _ _ hChunks => exact ⟨_, hChunks.symm⟩
  | dropped _ _ _ hPrefix => exact hPrefix

/- At most five chunks wait. -/
theorem length_waiting_le
    (steps : List Step) :
    (waiting (history steps)).length ≤ 5 := by
  cases chunkBooks steps with
  | closed _ _ _ hNone => simp [waiting, hNone]
  | held _ _ hChunks _ hRoom =>
      rw [waiting, hChunks, List.drop_left]
      exact hRoom
  | dropped _ _ _ _ hRoom =>
      rw [waiting, List.length_drop]
      exact Nat.sub_le_iff_le_add'.mpr hRoom

/- A chunk is taken in unless the sender is parked. -/
theorem step_write
    (hAlive : c.senderAlive = true)
    (hOpen : c.bodyOpen = true)
    (hHeld : c.queueHeld = true)
    (chunk : ByteArray) :
    (c.step (.write chunk)).1 =
      .sent (if c.parked then .pending else .ready (.ok ())) := by
  cases hParked : c.parked <;>
    simp [step, sendingStep, write, hAlive, hOpen, hHeld, hParked]

/-
  A chunk of an open stream is accepted while fewer than five
  wait, and the writer has to wait otherwise.
-/
theorem write_of_streamed
    (hStreamed : IsStreamed (history steps))
    (hAlive : .dropSender ∉ steps)
    (hPending : .dropPending ∉ steps)
    (hBody : .dropBody ∉ steps)
    (chunk : ByteArray) :
    ((after steps).step (.write chunk)).1 =
      .sent
        (if (waiting (history steps)).length < 5 then
          .ready (.ok ())
        else
          .pending) := by
  have hOpen := bodyOpen_after_iff.mpr ⟨hStreamed, hAlive⟩
  cases chunkBooks steps with
  | closed hNone => exact absurd hStreamed hNone
  | dropped _ _ hDropped =>
      rcases hDropped with ⟨e, he, hStep⟩
      have hMem : e.step ∈ steps := by
        rw [← map_step_history steps]
        exact List.mem_map_of_mem he
      rcases hStep with hStep | hStep
      · exact absurd (hStep ▸ hMem) hPending
      · exact absurd (hStep ▸ hMem) hBody
  | held _ hHeld hChunks hParked =>
      rw [step_write (senderAlive_after_iff.mpr hAlive) hOpen
        hHeld, hParked, waiting, hChunks, List.drop_left]
      by_cases hFree : (after steps).queue.length < 5
      · have hRoom : ¬ bufferSize < (after steps).queue.length :=
          Nat.not_lt.mpr (Nat.le_of_lt_succ hFree)
        rw [if_neg (by simpa using hRoom), if_pos hFree]
      · have hFull : bufferSize < (after steps).queue.length :=
          Nat.not_lt.mp hFree
        rw [if_pos (decide_eq_true hFull), if_neg hFree]

/- The body of a stream that a client holds is the queue. -/
theorem reading_of_streamed
    (hStreamed : IsStreamed (history steps))
    (hHolds : HoldsBody (history steps)) :
    (after steps).receiver = .reading .queued := by
  rcases reading_after_iff.mpr hHolds with ⟨body, hReading⟩
  cases chunkBooks steps with
  | closed hNone => exact absurd hStreamed hNone
  | dropped _ hGone => simp [hReading] at hGone
  | held _ hHeld =>
      cases body with
      | queued => exact hReading
      | once => simp [queueHeld, hReading] at hHeld

/- A client that reads on after the end of the sender. -/
theorem run_takeFrame_of_dropped
    (hStreamed : IsStreamed (history steps))
    (hDropped : .dropSender ∈ steps)
    (hHolds : HoldsBody (history steps))
    (n : Nat) :
    let left := waiting (history steps)
    ((after steps).run
        (.replicate (left.length + n) .takeFrame)).1 =
      left.map (fun chunk => .taken (.frame (.ok chunk))) ++
        .replicate n (.taken .ended) := by
  have hShut : (after steps).bodyOpen = false := by
    rw [← Bool.not_eq_true, bodyOpen_after_iff]
    exact fun hOpen => hOpen.2 hDropped
  have hReading := reading_of_streamed hStreamed hHolds
  rw [waiting_eq_queue hStreamed (by simp [hReading])]
  exact run_takeFrame hReading hShut n

------------------------------------------------------------
-- What is promised
------------------------------------------------------------

/-
  What both ends can rely on after these steps. The conditions
  on the steps say who is still there: a sender or a client that
  is gone can be promised nothing.
-/
structure Safe
    (steps : List Step) : Prop where
  -- the head
  sent_le : (sent (history steps)).length ≤ 1
  sends :
    .dropSender ∉ steps → .takeResponse ∉ steps →
      .dropPending ∉ steps → (∀ s ∈ steps, ¬ s.IsAttempt) →
      ∀ s, s.IsAttempt →
        ((after steps).step s).1 = .sent (.ready (.ok ()))
  refuses :
    .dropSender ∉ steps → (∃ s ∈ steps, s.IsAttempt) →
      ∀ s, s.IsAttempt →
        ∃ cause : IoError,
          cause.message = "response head already sent" ∧
            (after steps).step s =
              (.sent (.ready (.error (.io cause))), after steps)
  -- the response
  responses :
    ∀ head ∈ responses (history steps),
      HandsOver (history steps) head
  responds :
    .takeResponse ∉ steps → .dropPending ∉ steps →
      sent (history steps) ≠ [] →
      ∃ head hint,
        HandsOver (history steps) head ∧
          ((after steps).step .takeResponse).1 =
            .answered (.response head hint)
  -- the chunks
  polled :
    IsStreamed (history steps) →
      frames (history steps) <+: accepted (history steps)
  waiting_le : (waiting (history steps)).length ≤ 5
  accepts :
    IsStreamed (history steps) → .dropSender ∉ steps →
      .dropPending ∉ steps → .dropBody ∉ steps →
      ∀ chunk,
        ((after steps).step (.write chunk)).1 =
          .sent
            (if (waiting (history steps)).length < 5 then
              .ready (.ok ())
            else
              .pending)
  unaccepted :
    ∀ chunk,
      ((after steps).step (.write chunk)).1 ≠
          .sent (.ready (.ok ())) →
        ((after steps).step (.write chunk)).2 = after steps
  drained :
    IsStreamed (history steps) → .dropSender ∈ steps →
      HoldsBody (history steps) →
      let left := waiting (history steps)
      ∀ n,
        ((after steps).run
            (.replicate (left.length + n) .takeFrame)).1 =
          left.map (fun chunk => .taken (.frame (.ok chunk))) ++
            .replicate n (.taken .ended)

/- A channel keeps its promises after every sequence of steps. -/
theorem safe_after
    (steps : List Step) :
    Safe steps where
  sent_le := (headBooks steps).sent_le
  sends hAlive hTake hDrop hFirst _ hAttempt :=
    step_of_first hAlive hTake hDrop hFirst hAttempt
  refuses hAlive hBefore _ hAttempt :=
    ⟨.headAlreadySent, rfl,
      step_of_later hAlive hBefore hAttempt⟩
  responses := (headBooks steps).responses
  responds := takeResponse_of_sent
  polled := frames_prefix_accepted
  waiting_le := length_waiting_le steps
  accepts := write_of_streamed
  unaccepted _ hRefused :=
    eq_of_not_accepted (moves_step _ _) hRefused
  drained := run_takeFrame_of_dropped

end Courier.Channel
