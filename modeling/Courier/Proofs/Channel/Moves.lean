import Courier.Connection.Channel
import Mathlib.Data.List.Induction

/-
  Everything that a step of either end can do to a channel, and
  what the steps of a run leave behind: the answers in order,
  and what can be read off them.

  Key definitions include:
    * `Channel.Entry`
    * `Channel.Moves`
    * `Channel.after`
    * `Channel.history`
    * `Channel.sent`
    * `Channel.accepted`
    * `Channel.frames`
    * `Channel.responses`
    * `Channel.headersSet`

  Main statements:
    * `Channel.moves_step`
    * `Channel.after_snoc`
    * `Channel.history_snoc`
-/

namespace Courier.Channel

------------------------------------------------------------
-- Steps
------------------------------------------------------------

namespace Step

/- The status of a step that attempts to send a head. -/
def status? : Step → Option Nat
  | .sendHead status | .sendFull status _ => some status
  | _ => none

/- An attempt to send a head. -/
def IsAttempt : Step → Prop
  | .sendHead _ | .sendFull _ _ => True
  | _ => False

instance : DecidablePred IsAttempt := fun s => by
  cases s <;> unfold IsAttempt <;> infer_instance

/- A change of the headers that are set so far. -/
def IsHeader : Step → Prop
  | .header _ _ | .setHeader _ _ | .delHeader _ | .cookie _ =>
      True
  | _ => False

/- The headers after a step: only a change touches them. -/
def edited
    (w : WireHeaders) : Step → WireHeaders
  | .header name value => w.add name value
  | .setHeader name value => w.set name value
  | .delHeader name => w.del name
  | .cookie value => w.add "Set-Cookie" value
  | _ => w

theorem edited_of_not_isHeader
    {s : Step}
    (hHeader : ¬ s.IsHeader)
    (w : WireHeaders) :
    s.edited w = w := by
  cases s <;> simp_all [IsHeader, edited]

end Step

------------------------------------------------------------
-- What was answered
------------------------------------------------------------

/- A step and what it answered. -/
structure Entry where
  step : Step
  answer : StepAnswer

namespace Entry

/- The status of an attempt that an existing sender made. -/
def attempted? : Entry → Option Nat
  | ⟨_, .absent⟩ => none
  | ⟨s, _⟩ => s.status?

/- The status of an attempt that succeeded. -/
def sent? : Entry → Option Nat
  | ⟨s, .sent (.ready (.ok ()))⟩ => s.status?
  | _ => none

/- The chunk of a write that was answered ok. -/
def accepted? : Entry → Option ByteArray
  | ⟨.write chunk, .sent (.ready (.ok ()))⟩ => some chunk
  | _ => none

/- The chunk of a frame that the client polled. -/
def frame? : Entry → Option ByteArray
  | ⟨_, .taken (.frame (.ok chunk))⟩ => some chunk
  | _ => none

/- The head of a response that the client received. -/
def response? : Entry → Option ReceivedHead
  | ⟨_, .answered (.response head _)⟩ => some head
  | _ => none

/-
  No attempt to send a head, no accepted chunk, no frame and no
  response.
-/
structure IsQuiet
    (e : Entry) : Prop where
  attempted?_eq : e.attempted? = none
  accepted?_eq : e.accepted? = none
  frame?_eq : e.frame? = none
  response?_eq : e.response? = none

/- Only an attempt succeeds in sending a head. -/
theorem sent?_eq_none
    {e : Entry}
    (hAttempt : e.attempted? = none) :
    e.sent? = none := by
  rcases e with ⟨s, answer⟩
  cases answer with
  | sent answer =>
      rcases answer with ⟨_ | _⟩ | _
      · rfl
      · exact hAttempt
      · rfl
  | _ => rfl

/- A change of the headers is none of these. -/
theorem isQuiet_of_isHeader
    {s : Step}
    (hHeader : s.IsHeader)
    (w : WireHeaders) :
    IsQuiet ⟨s, .headers w⟩ := by
  cases s with
  | header => exact ⟨rfl, rfl, rfl, rfl⟩
  | setHeader => exact ⟨rfl, rfl, rfl, rfl⟩
  | delHeader => exact ⟨rfl, rfl, rfl, rfl⟩
  | cookie => exact ⟨rfl, rfl, rfl, rfl⟩
  | _ => cases hHeader

end Entry

------------------------------------------------------------
-- What a step can do
------------------------------------------------------------

/-
  What a step can do to a channel and what it answers then. Each
  constructor names the only states in which that happens.
-/
inductive Moves
    (c : Channel) : Step → StepAnswer → Channel → Prop where
  -- the sending end
  | edited
      {s : Step}
      (hAlive : c.senderAlive = true)
      (hHeader : s.IsHeader) :
      Moves c s (.headers (s.edited c.headers))
        { c with headers := s.edited c.headers }
  | opened
      {status : Nat}
      (hAlive : c.senderAlive = true)
      (hUnsent : c.headUnsent = true)
      (hWaiting : c.receiver = .waiting) :
      Moves c (.sendHead status) (.sent (.ready (.ok ())))
        { c with
          headUnsent := false
          headers := .empty
          bodyOpen := true
          receiver := .ready ⟨status, c.headers⟩ .queued }
  | completed
      {status : Nat} {body : ByteArray}
      (hAlive : c.senderAlive = true)
      (hUnsent : c.headUnsent = true)
      (hWaiting : c.receiver = .waiting) :
      Moves c (.sendFull status body) (.sent (.ready (.ok ())))
        { c with
          headUnsent := false
          headers := .empty
          bodyOpen := false
          receiver :=
            .ready ⟨status, c.headers⟩ (.once (.once body)) }
  | lost
      {s : Step}
      (hAlive : c.senderAlive = true)
      (hAttempt : s.IsAttempt)
      (hUnsent : c.headUnsent = true)
      (hGone : c.receiver ≠ .waiting) :
      Moves c s (.sent (.ready (.error .closed)))
        { c with headUnsent := false, headers := .empty }
  | refused
      {s : Step}
      (hAlive : c.senderAlive = true)
      (hAttempt : s.IsAttempt)
      (hSpent : c.headUnsent = false) :
      Moves c s
        (.sent (.ready (.error (.io .headAlreadySent)))) c
  | queued
      {chunk : ByteArray}
      (hAlive : c.senderAlive = true)
      (hOpen : c.bodyOpen = true)
      (hHeld : c.queueHeld = true)
      (hParked : c.parked = false) :
      Moves c (.write chunk) (.sent (.ready (.ok ())))
        { c with
          queue := c.queue ++ [chunk]
          parked := bufferSize < (c.queue ++ [chunk]).length }
  | senderDropped :
      Moves c .dropSender .dropped c.dropSender
  -- the client's end
  | received
      {head : ReceivedHead} {body : ChannelBody}
      (hReady : c.receiver = .ready head body) :
      Moves c .takeResponse
        (.answered (.response head body.hint))
        { c with receiver := .reading body }
  | gaveUp
      {s : Step} {answer : StepAnswer}
      (hWaiting : c.receiver = .waiting)
      (hStep : s = .takeResponse ∨ s = .dropPending)
      (hQuiet : Entry.IsQuiet ⟨s, answer⟩) :
      Moves c s answer { c with receiver := .gone }
  | pendingDropped
      {head : ReceivedHead} {body : ChannelBody}
      (hReady : c.receiver = .ready head body) :
      Moves c .dropPending .dropped
        { c with receiver := .gone, queue := [] }
  | bodyDropped
      {body : ChannelBody}
      (hReading : c.receiver = .reading body) :
      Moves c .dropBody .dropped
        { c with receiver := .gone, queue := [] }
  | polled
      {body rest : Body} {frame : Frame}
      (hReading : c.receiver = .reading (.once body))
      (hPoll : body.poll = (some frame, rest)) :
      Moves c .takeFrame (.taken (.frame frame))
        { c with receiver := .reading (.once rest) }
  | exhausted
      {body rest : Body}
      (hReading : c.receiver = .reading (.once body))
      (hPoll : body.poll = (none, rest)) :
      Moves c .takeFrame (.taken .ended)
        { c with receiver := .reading (.once rest) }
  | taken
      {chunk : ByteArray} {rest : List ByteArray}
      (hReading : c.receiver = .reading .queued)
      (hQueue : c.queue = chunk :: rest) :
      Moves c .takeFrame (.taken (.frame (.ok chunk)))
        { c with queue := rest, parked := false }
  -- either end
  | idle
      {s : Step} {answer : StepAnswer}
      (hOther :
        c.senderAlive = true → ¬ s.IsHeader ∧ ¬ s.IsAttempt)
      (hQuiet : Entry.IsQuiet ⟨s, answer⟩) :
      Moves c s answer c

/- A step without its object is answered as absent. -/
theorem moves_absent
    {c : Channel}
    {s : Step}
    (hOther :
      c.senderAlive = true → ¬ s.IsHeader ∧ ¬ s.IsAttempt) :
    Moves c s .absent c :=
  .idle hOther ⟨rfl, by cases s <;> rfl, rfl, rfl⟩

section HandOver

variable {c : Channel}
variable (status : Nat) (body : ChannelBody) (opens : Bool)

/- A client that waits is handed the head. -/
theorem handOver_of_waiting
    (hUnsent : c.headUnsent = true)
    (hWaiting : c.receiver = .waiting) :
    c.handOver status body opens =
      (.ok (),
        { c with
          headUnsent := false
          headers := .empty
          bodyOpen := opens
          receiver := .ready ⟨status, c.headers⟩ body }) := by
  simp [handOver, hUnsent, hWaiting]

/- A head that is handed over to nobody is lost. -/
theorem handOver_of_gone
    (hUnsent : c.headUnsent = true)
    (hGone : c.receiver ≠ .waiting) :
    c.handOver status body opens =
      (.error .closed,
        { c with headUnsent := false, headers := .empty }) := by
  cases hReceiver : c.receiver with
  | waiting => exact absurd hReceiver hGone
  | _ => simp [handOver, hUnsent, hReceiver]

/- There is no second head. -/
theorem handOver_of_spent
    (hSpent : c.headUnsent = false) :
    c.handOver status body opens =
      (.error (.io .headAlreadySent), c) := by
  simp [handOver, hSpent]

end HandOver

/- Both kinds of attempt hand over a head, or fail alike. -/
theorem moves_sendHead
    {c : Channel}
    (hAlive : c.senderAlive = true)
    (status : Nat) :
    Moves c (.sendHead status)
      (.sent (.ready (c.sendHead status).1))
      (c.sendHead status).2 := by
  unfold sendHead
  cases hUnsent : c.headUnsent with
  | false =>
      rw [handOver_of_spent _ _ _ hUnsent]
      exact .refused hAlive trivial hUnsent
  | true =>
      by_cases hWaiting : c.receiver = .waiting
      · rw [handOver_of_waiting _ _ _ hUnsent hWaiting]
        exact .opened hAlive hUnsent hWaiting
      · rw [handOver_of_gone _ _ _ hUnsent hWaiting]
        exact .lost hAlive trivial hUnsent hWaiting

theorem moves_sendFull
    {c : Channel}
    (hAlive : c.senderAlive = true)
    (status : Nat)
    (body : ByteArray) :
    Moves c (.sendFull status body)
      (.sent (.ready (c.sendFull status body).1))
      (c.sendFull status body).2 := by
  unfold sendFull
  cases hUnsent : c.headUnsent with
  | false =>
      rw [handOver_of_spent _ _ _ hUnsent]
      exact .refused hAlive trivial hUnsent
  | true =>
      by_cases hWaiting : c.receiver = .waiting
      · rw [handOver_of_waiting _ _ _ hUnsent hWaiting]
        exact .completed hAlive hUnsent hWaiting
      · rw [handOver_of_gone _ _ _ hUnsent hWaiting]
        exact .lost hAlive trivial hUnsent hWaiting

/- A chunk is queued when there is room and a client. -/
theorem moves_write
    {c : Channel}
    (hAlive : c.senderAlive = true)
    (chunk : ByteArray) :
    Moves c (.write chunk) (.sent (c.write chunk).1)
      (c.write chunk).2 := by
  unfold write
  by_cases hOpen : c.bodyOpen = true
  · rw [if_neg (by simp [hOpen])]
    by_cases hHeld : c.queueHeld = true
    · rw [if_neg (by simp [hHeld])]
      by_cases hParked : c.parked = true
      · rw [if_pos hParked]
        exact .idle (fun _ => ⟨id, id⟩) ⟨rfl, rfl, rfl, rfl⟩
      · rw [if_neg hParked]
        rw [Bool.not_eq_true] at hParked
        exact .queued hAlive hOpen hHeld hParked
    · rw [if_pos (by simp [hHeld])]
      exact .idle (fun _ => ⟨id, id⟩) ⟨rfl, rfl, rfl, rfl⟩
  · rw [if_pos (by simp [hOpen])]
    exact .idle (fun _ => ⟨id, id⟩) ⟨rfl, rfl, rfl, rfl⟩

/- A frame is taken from a complete body or from the queue. -/
theorem moves_takeFrame
    (c : Channel) :
    Moves c .takeFrame (c.step .takeFrame).1
      (c.step .takeFrame).2 := by
  cases hReceiver : c.receiver with
  | reading body =>
      cases body with
      | once body =>
          rcases hPoll : body.poll with ⟨_ | frame, rest⟩
          · have hStep :
                c.step .takeFrame =
                  (.taken .ended,
                    { c with
                      receiver := .reading (.once rest) }) := by
              simp [step, takeFrame, hReceiver, hPoll]
            rw [hStep]
            exact .exhausted hReceiver hPoll
          · have hStep :
                c.step .takeFrame =
                  (.taken (.frame frame),
                    { c with
                      receiver := .reading (.once rest) }) := by
              simp [step, takeFrame, hReceiver, hPoll]
            rw [hStep]
            exact .polled hReceiver hPoll
      | queued =>
          cases hQueue : c.queue with
          | cons chunk rest =>
              have hStep :
                  c.step .takeFrame =
                    (.taken (.frame (.ok chunk)),
                      { c with
                        queue := rest
                        parked := false }) := by
                simp [step, takeFrame, hReceiver, hQueue]
              rw [hStep]
              exact .taken hReceiver hQueue
          | nil =>
              have hStep :
                  c.step .takeFrame =
                    (.taken (if c.bodyOpen then .pending
                      else .ended), c) := by
                cases hOpen : c.bodyOpen <;>
                  simp [step, takeFrame, hReceiver, hQueue,
                    hOpen]
              rw [hStep]
              refine .idle (fun _ => ⟨id, id⟩) ?_
              cases c.bodyOpen <;> exact ⟨rfl, rfl, rfl, rfl⟩
  | _ =>
      have hStep : c.step .takeFrame = (.absent, c) := by
        simp [step, takeFrame, hReceiver]
      rw [hStep]
      exact moves_absent fun _ => ⟨id, id⟩

/- A response is taken once; asking too early gives it up. -/
theorem moves_takeResponse
    (c : Channel) :
    Moves c .takeResponse (c.step .takeResponse).1
      (c.step .takeResponse).2 := by
  cases hReceiver : c.receiver with
  | ready head body =>
      have hStep :
          c.step .takeResponse =
            (.answered (.response head body.hint),
              { c with receiver := .reading body }) := by
        simp [step, takeResponse, hReceiver]
      rw [hStep]
      exact .received hReceiver
  | waiting =>
      have hStep :
          c.step .takeResponse =
            (.answered
              (if c.senderAlive && c.headUnsent then .pending
                else .closed),
              { c with receiver := .gone }) := by
        cases hPending : c.senderAlive && c.headUnsent <;>
          simp [step, takeResponse, hReceiver, hPending]
      rw [hStep]
      refine .gaveUp hReceiver (Or.inl rfl) ?_
      cases c.senderAlive && c.headUnsent <;>
        exact ⟨rfl, rfl, rfl, rfl⟩
  | _ =>
      have hStep : c.step .takeResponse = (.absent, c) := by
        simp [step, takeResponse, hReceiver]
      rw [hStep]
      exact moves_absent fun _ => ⟨id, id⟩

/- Giving up the response, when it is not taken yet. -/
theorem moves_dropPending
    (c : Channel) :
    Moves c .dropPending .dropped c.dropPending := by
  cases hReceiver : c.receiver with
  | waiting =>
      have hDrop :
          c.dropPending = { c with receiver := .gone } := by
        simp [dropPending, hReceiver]
      rw [hDrop]
      exact .gaveUp hReceiver (Or.inr rfl) ⟨rfl, rfl, rfl, rfl⟩
  | ready head body =>
      have hDrop :
          c.dropPending =
            { c with receiver := .gone, queue := [] } := by
        simp [dropPending, hReceiver]
      rw [hDrop]
      exact .pendingDropped hReceiver
  | _ =>
      have hDrop : c.dropPending = c := by
        simp [dropPending, hReceiver]
      rw [hDrop]
      exact .idle (fun _ => ⟨id, id⟩) ⟨rfl, rfl, rfl, rfl⟩

/- Giving up the body, when it is held. -/
theorem moves_dropBody
    (c : Channel) :
    Moves c .dropBody .dropped c.dropBody := by
  cases hReceiver : c.receiver with
  | reading body =>
      have hDrop :
          c.dropBody =
            { c with receiver := .gone, queue := [] } := by
        simp [dropBody, hReceiver]
      rw [hDrop]
      exact .bodyDropped hReceiver
  | _ =>
      have hDrop : c.dropBody = c := by
        simp [dropBody, hReceiver]
      rw [hDrop]
      exact .idle (fun _ => ⟨id, id⟩) ⟨rfl, rfl, rfl, rfl⟩

/- The steps of a sender that is there. -/
theorem moves_sendingStep
    {c : Channel}
    (hAlive : c.senderAlive = true)
    (s : Step) :
    Moves c s (c.sendingStep s).1 (c.sendingStep s).2 := by
  cases s with
  | header => exact .edited hAlive trivial
  | setHeader => exact .edited hAlive trivial
  | delHeader => exact .edited hAlive trivial
  | cookie => exact .edited hAlive trivial
  | sendHead status => exact moves_sendHead hAlive status
  | sendFull status body =>
      exact moves_sendFull hAlive status body
  | write chunk => exact moves_write hAlive chunk
  | _ => exact .idle (fun _ => ⟨id, id⟩) ⟨rfl, rfl, rfl, rfl⟩

/- Every step is one of the moves. -/
theorem moves_step
    (c : Channel)
    (s : Step) :
    Moves c s (c.step s).1 (c.step s).2 := by
  cases s with
  | dropSender => exact .senderDropped
  | dropPending => exact moves_dropPending c
  | dropBody => exact moves_dropBody c
  | takeFrame => exact moves_takeFrame c
  | takeResponse => exact moves_takeResponse c
  | bodyHint =>
      unfold step
      cases c.bodyHint? with
      | some hint =>
          exact .idle (fun _ => ⟨id, id⟩) ⟨rfl, rfl, rfl, rfl⟩
      | none => exact moves_absent fun _ => ⟨id, id⟩
  | _ =>
      -- what is left are the steps of the sending end
      by_cases hAlive : c.senderAlive = true
      · simpa only [step, hAlive, if_true] using
          moves_sendingStep hAlive _
      · simpa only [step, hAlive, if_false, Bool.false_eq_true]
          using moves_absent fun h => absurd h hAlive

------------------------------------------------------------
-- Runs
------------------------------------------------------------

/- A channel before any step. -/
def fresh : Channel := {}

/- The channel after a sequence of steps. -/
def after
    (steps : List Step) : Channel :=
  (fresh.run steps).2

/- The steps of a sequence and what each of them answered. -/
def history
    (steps : List Step) : List Entry :=
  steps.zipWith Entry.mk (fresh.run steps).1

theorem length_run
    (c : Channel)
    (steps : List Step) :
    (c.run steps).1.length = steps.length := by
  induction steps generalizing c with
  | nil => rfl
  | cons s rest ih =>
      change (_ :: ((c.step s).2.run rest).1).length = _
      rw [List.length_cons, ih, List.length_cons]

/- A run goes on from where its first part ended. -/
theorem run_append
    (c : Channel)
    (steps later : List Step) :
    c.run (steps ++ later) =
      let first := c.run steps
      let second := first.2.run later
      (first.1 ++ second.1, second.2) := by
  induction steps generalizing c with
  | nil => rfl
  | cons s rest ih =>
      change
        (_ :: ((c.step s).2.run (rest ++ later)).1,
          ((c.step s).2.run (rest ++ later)).2) = _
      rw [ih]
      rfl

theorem after_append
    (steps later : List Step) :
    after (steps ++ later) = ((after steps).run later).2 := by
  rw [after, run_append]
  rfl

/- The channel after one more step. -/
theorem after_snoc
    (steps : List Step)
    (s : Step) :
    after (steps ++ [s]) = ((after steps).step s).2 := by
  rw [after_append]
  rfl

/- The history after one more step. -/
theorem history_snoc
    (steps : List Step)
    (s : Step) :
    history (steps ++ [s]) =
      history steps ++ [⟨s, ((after steps).step s).1⟩] := by
  unfold history
  rw [run_append]
  simp only
  rw [List.zipWith_append (length_run fresh steps).symm]
  rfl

/- A history has the steps that were made. -/
theorem map_step_history
    (steps : List Step) :
    (history steps).map Entry.step = steps := by
  induction steps using List.reverseRecOn with
  | nil => rfl
  | append_singleton steps s ih => simp [history_snoc, ih]

------------------------------------------------------------
-- Views of a history
------------------------------------------------------------

/- The statuses of the attempts that succeeded. -/
def sent
    (log : List Entry) : List Nat :=
  log.filterMap Entry.sent?

/- The chunks whose write was answered ok, in order. -/
def accepted
    (log : List Entry) : List ByteArray :=
  log.filterMap Entry.accepted?

/- The chunks that the client polled, in order. -/
def frames
    (log : List Entry) : List ByteArray :=
  log.filterMap Entry.frame?

/- The heads that the client received. -/
def responses
    (log : List Entry) : List ReceivedHead :=
  log.filterMap Entry.response?

/- The headers that the changes in a history built up. -/
def headersSet
    (log : List Entry) : WireHeaders :=
  log.foldl (fun w e => e.step.edited w) .empty

@[simp] theorem sent_snoc
    (log : List Entry)
    (e : Entry) :
    sent (log ++ [e]) = sent log ++ e.sent?.toList := by
  cases hSent : e.sent? <;> simp [sent, hSent]

@[simp] theorem accepted_snoc
    (log : List Entry)
    (e : Entry) :
    accepted (log ++ [e]) =
      accepted log ++ e.accepted?.toList := by
  cases hAccepted : e.accepted? <;>
    simp [accepted, hAccepted]

@[simp] theorem frames_snoc
    (log : List Entry)
    (e : Entry) :
    frames (log ++ [e]) = frames log ++ e.frame?.toList := by
  cases hFrame : e.frame? <;> simp [frames, hFrame]

@[simp] theorem responses_snoc
    (log : List Entry)
    (e : Entry) :
    responses (log ++ [e]) =
      responses log ++ e.response?.toList := by
  cases hResponse : e.response? <;>
    simp [responses, hResponse]

@[simp] theorem headersSet_snoc
    (log : List Entry)
    (e : Entry) :
    headersSet (log ++ [e]) =
      e.step.edited (headersSet log) := by
  simp [headersSet]

end Courier.Channel
