import Courier.Proofs.Channel.Moves

/-
  The books of a channel: how its state follows from what the
  steps of its history were answered. One part is about the
  head, which is handed over once, and one about the chunks,
  each of which is taken, waits, or is lost with the body.

  Key definitions include:
    * `Channel.HandsOver`
    * `Channel.IsStreamed`
    * `Channel.HeadBooks`
    * `Channel.ChunkBooks`

  Main statements:
    * `Channel.HeadBooks.step`
    * `Channel.ChunkBooks.step`
    * `Channel.headBooks`
    * `Channel.chunkBooks`
-/

namespace Courier.Channel

variable {log : List Entry} {c c' : Channel}
variable {s : Step} {answer : StepAnswer}

------------------------------------------------------------
-- The head
------------------------------------------------------------

/-
  One attempt in a history succeeded. It had the status of this
  head, whose headers are those that were set before it.
-/
def HandsOver
    (log : List Entry)
    (head : ReceivedHead) : Prop :=
  ∃ before s later,
    log = before ++ ⟨s, .sent (.ready (.ok ()))⟩ :: later ∧
      s.status? = some head.status ∧
      head.headers = headersSet before

/- A head that was handed over stays so. -/
theorem HandsOver.snoc
    {head : ReceivedHead}
    (hHands : HandsOver log head)
    (e : Entry) :
    HandsOver (log ++ [e]) head := by
  rcases hHands with ⟨before, s, later, rfl, hStatus, hHeaders⟩
  exact ⟨before, s, later ++ [e], by simp, hStatus, hHeaders⟩

/- No head was attempted, so that nothing else has happened. -/
structure Untouched
    (log : List Entry)
    (c : Channel) : Prop where
  attempts : ∀ e ∈ log, e.attempted? = none
  accepted_eq : accepted log = []
  frames_eq : frames log = []
  responses_eq : responses log = []
  headers_eq : c.senderAlive = true → c.headers = headersSet log
  receiver_eq : c.receiver = .waiting ∨ c.receiver = .gone
  bodyOpen_eq : c.bodyOpen = false
  parked_eq : c.parked = false
  queue_eq : c.queue = []

namespace Untouched

/- Where nothing was attempted nothing was sent. -/
theorem sent_eq
    (h : Untouched log c) :
    sent log = [] := by
  apply List.filterMap_eq_nil_iff.mpr
  intro e he
  exact Entry.sent?_eq_none (h.attempts e he)

/- Nobody holds a body before a head was attempted. -/
theorem receiver_ne
    (h : Untouched log c) :
    (∀ head body, c.receiver ≠ .ready head body) ∧
      ∀ body, c.receiver ≠ .reading body := by
  rcases h.receiver_eq with hReceiver | hReceiver <;>
    simp [hReceiver]

/- A step that attempts nothing leaves it so. -/
theorem snoc
    (h : Untouched log c)
    {e : Entry}
    (hQuiet : e.IsQuiet)
    (hHeaders :
      c'.senderAlive = true →
        c.senderAlive = true ∧
          c'.headers = e.step.edited c.headers)
    (hReceiver : c'.receiver = c.receiver ∨ c'.receiver = .gone)
    (hOpen : c'.bodyOpen = true → c.bodyOpen = true)
    (hParked : c'.parked = c.parked)
    (hQueue : c'.queue = c.queue) :
    Untouched (log ++ [e]) c' where
  attempts f hf := by
    rcases List.mem_append.mp hf with hOld | hNew
    · exact h.attempts f hOld
    · rw [List.mem_singleton.mp hNew]
      exact hQuiet.attempted?_eq
  accepted_eq := by
    simp [h.accepted_eq, hQuiet.accepted?_eq]
  frames_eq := by simp [h.frames_eq, hQuiet.frame?_eq]
  responses_eq := by
    simp [h.responses_eq, hQuiet.response?_eq]
  headers_eq hAlive := by
    rcases hHeaders hAlive with ⟨hBefore, hEdited⟩
    rw [hEdited, h.headers_eq hBefore, headersSet_snoc]
  receiver_eq := by
    rcases hReceiver with hSame | hGone
    · rw [hSame]
      exact h.receiver_eq
    · exact Or.inr hGone
  bodyOpen_eq := by
    rw [← Bool.not_eq_true]
    intro hNow
    simpa [h.bodyOpen_eq] using hOpen hNow
  parked_eq := by rw [hParked, h.parked_eq]
  queue_eq := by rw [hQueue, h.queue_eq]

/- What a step leaves when the head is still unsent behind it. -/
theorem step
    (h : Untouched log c)
    (hMoves : Moves c s answer c')
    (hUnsent : c.headUnsent = true)
    (hStill : c'.headUnsent = true) :
    Untouched (log ++ [⟨s, answer⟩]) c' := by
  cases hMoves with
  | edited hAlive hHeader =>
      exact h.snoc (Entry.isQuiet_of_isHeader hHeader _)
        (fun _ => ⟨hAlive, rfl⟩) (Or.inl rfl) id rfl rfl
  | opened => cases hStill
  | completed => cases hStill
  | lost => cases hStill
  | refused _ _ hSpent => simp [hUnsent] at hSpent
  | queued _ hOpen => simp [h.bodyOpen_eq] at hOpen
  | senderDropped =>
      exact h.snoc ⟨rfl, rfl, rfl, rfl⟩
        (fun hAlive => by cases hAlive) (Or.inl rfl)
        (fun hOpen => by cases hOpen) rfl rfl
  | received hReady =>
      exact absurd hReady (h.receiver_ne.1 _ _)
  | gaveUp _ hStep hQuiet =>
      have hHeader : ¬ s.IsHeader := by
        rcases hStep with rfl | rfl <;> exact id
      exact h.snoc hQuiet
        (fun hAlive =>
          ⟨hAlive, (Step.edited_of_not_isHeader hHeader _).symm⟩)
        (Or.inr rfl) id rfl rfl
  | pendingDropped hReady =>
      exact absurd hReady (h.receiver_ne.1 _ _)
  | bodyDropped hReading =>
      exact absurd hReading (h.receiver_ne.2 _)
  | polled hReading =>
      exact absurd hReading (h.receiver_ne.2 _)
  | exhausted hReading =>
      exact absurd hReading (h.receiver_ne.2 _)
  | taken hReading =>
      exact absurd hReading (h.receiver_ne.2 _)
  | idle hOther hQuiet =>
      exact h.snoc hQuiet
        (fun hAlive =>
          ⟨hAlive,
            (Step.edited_of_not_isHeader (hOther hAlive).1
              _).symm⟩)
        (Or.inl rfl) id rfl rfl

end Untouched

/-
  The books of the head: while it is unsent nothing was
  attempted, it is sent at most once, and the response on its
  way, or received, is the one that was handed over.
-/
structure HeadBooks
    (log : List Entry)
    (c : Channel) : Prop where
  untouched : c.headUnsent = true → Untouched log c
  sent_le : (sent log).length ≤ 1
  spent : c.headUnsent = false → c.receiver ≠ .waiting
  ready :
    ∀ head body,
      c.receiver = .ready head body → HandsOver log head
  responses : ∀ head ∈ responses log, HandsOver log head

namespace HeadBooks

/- A head is only sent when none was before. -/
theorem sent_le_snoc
    (h : HeadBooks log c)
    (hMoves : Moves c s answer c') :
    (sent (log ++ [⟨s, answer⟩])).length ≤ 1 := by
  cases hMoves with
  | opened _ hUnsent =>
      simp [(h.untouched hUnsent).sent_eq, Entry.sent?,
        Step.status?]
  | completed _ hUnsent =>
      simp [(h.untouched hUnsent).sent_eq, Entry.sent?,
        Step.status?]
  | gaveUp _ _ hQuiet =>
      simpa [Entry.sent?_eq_none hQuiet.attempted?_eq] using
        h.sent_le
  | idle _ hQuiet =>
      simpa [Entry.sent?_eq_none hQuiet.attempted?_eq] using
        h.sent_le
  | _ => simpa [Entry.sent?, Step.status?] using h.sent_le

/- The response on its way is the one that was handed over. -/
theorem ready_snoc
    (h : HeadBooks log c)
    (hMoves : Moves c s answer c')
    {head : ReceivedHead}
    {body : ChannelBody}
    (hReady : c'.receiver = .ready head body) :
    HandsOver (log ++ [⟨s, answer⟩]) head := by
  cases hMoves with
  | opened hAlive hUnsent =>
      cases hReady
      exact ⟨log, _, [], rfl, rfl,
        (h.untouched hUnsent).headers_eq hAlive⟩
  | completed hAlive hUnsent =>
      cases hReady
      exact ⟨log, _, [], rfl, rfl,
        (h.untouched hUnsent).headers_eq hAlive⟩
  | received => cases hReady
  | gaveUp => cases hReady
  | pendingDropped => cases hReady
  | bodyDropped => cases hReady
  | polled => cases hReady
  | exhausted => cases hReady
  | _ => exact (h.ready head body hReady).snoc _

/- A response that is received was handed over. -/
theorem responses_snoc
    (h : HeadBooks log c)
    (hMoves : Moves c s answer c')
    {head : ReceivedHead}
    (hHead : head ∈ Channel.responses (log ++ [⟨s, answer⟩])) :
    HandsOver (log ++ [⟨s, answer⟩]) head := by
  rw [Channel.responses_snoc, List.mem_append] at hHead
  rcases hHead with hOld | hNew
  · exact (h.responses head hOld).snoc _
  · cases hMoves with
    | received hReady =>
        simp only [Entry.response?, Option.toList_some,
          List.mem_singleton] at hNew
        subst hNew
        exact (h.ready _ _ hReady).snoc _
    | gaveUp _ _ hQuiet => simp [hQuiet.response?_eq] at hNew
    | idle _ hQuiet => simp [hQuiet.response?_eq] at hNew
    | _ => simp [Entry.response?] at hNew

/- A head that is spent is waited for no more. -/
theorem spent_step
    (h : HeadBooks log c)
    (hMoves : Moves c s answer c')
    (hSpent : c'.headUnsent = false) :
    c'.receiver ≠ .waiting := by
  cases hMoves with
  | lost _ _ _ hGone => exact hGone
  | edited => exact h.spent hSpent
  | refused => exact h.spent hSpent
  | queued => exact h.spent hSpent
  | senderDropped => exact h.spent hSpent
  | taken => exact h.spent hSpent
  | idle => exact h.spent hSpent
  | _ => simp

/- Every step keeps the books of the head. -/
theorem step
    (h : HeadBooks log c)
    (hMoves : Moves c s answer c') :
    HeadBooks (log ++ [⟨s, answer⟩]) c' where
  untouched hStill := by
    have hUnsent : c.headUnsent = true := by
      cases hMoves with
      | opened _ hUnsent => exact hUnsent
      | completed _ hUnsent => exact hUnsent
      | lost _ _ hUnsent => exact hUnsent
      | _ => exact hStill
    exact (h.untouched hUnsent).step hMoves hUnsent hStill
  sent_le := h.sent_le_snoc hMoves
  spent := h.spent_step hMoves
  ready _ _ := h.ready_snoc hMoves
  responses _ := h.responses_snoc hMoves

end HeadBooks

/- The books of the head are kept along every run. -/
theorem headBooks
    (steps : List Step) :
    HeadBooks (history steps) (after steps) := by
  induction steps using List.reverseRecOn with
  | nil =>
      have hUntouched : Untouched [] fresh :=
        { attempts := by simp
          accepted_eq := rfl
          frames_eq := rfl
          responses_eq := rfl
          headers_eq := fun _ => rfl
          receiver_eq := Or.inl rfl
          bodyOpen_eq := rfl
          parked_eq := rfl
          queue_eq := rfl }
      exact
        { untouched := fun _ => hUntouched
          sent_le := by simp [history, sent]
          spent := fun hSpent => by cases hSpent
          ready := fun _ _ hReady => by cases hReady
          responses := by simp [history, Channel.responses] }
  | append_singleton steps s ih =>
      rw [history_snoc, after_snoc]
      exact ih.step (moves_step (after steps) s)

------------------------------------------------------------
-- The chunks
------------------------------------------------------------

/- A successful attempt that opens a streamed body. -/
def Entry.OpensStream : Entry → Prop
  | ⟨.sendHead _, .sent (.ready (.ok ()))⟩ => True
  | _ => False

/- The head of a streamed response was sent. -/
def IsStreamed
    (log : List Entry) : Prop :=
  ∃ e ∈ log, e.OpensStream

/- Whether a body is streamed is decided when a head is sent. -/
theorem isStreamed_snoc
    {e : Entry} :
    IsStreamed (log ++ [e]) ↔
      IsStreamed log ∨ e.OpensStream := by
  constructor
  · rintro ⟨f, hf, hOpens⟩
    rcases List.mem_append.mp hf with hOld | hNew
    · exact Or.inl ⟨f, hOld, hOpens⟩
    · rw [List.mem_singleton.mp hNew] at hOpens
      exact Or.inr hOpens
  · rintro (⟨f, hf, hOpens⟩ | hOpens)
    · exact ⟨f, List.mem_append_left _ hf, hOpens⟩
    · exact ⟨e, by simp, hOpens⟩

/- A stream is opened by an attempt. -/
theorem Entry.not_opensStream
    {e : Entry}
    (hAttempt : e.attempted? = none) :
    ¬ e.OpensStream := by
  rcases e with ⟨s, answer⟩
  cases s <;> cases answer <;>
    simp_all [Entry.OpensStream, Entry.attempted?,
      Step.status?]

/-
  The books of the chunks. Before a stream is opened no chunk
  was accepted. While its body is held each accepted chunk was
  polled or waits, and the sender is parked once five wait. When
  the body was dropped, what had not been polled is lost.
-/
inductive ChunkBooks
    (log : List Entry)
    (c : Channel) : Prop where
  | closed
      (hStreamed : ¬ IsStreamed log)
      (hHeld : c.queueHeld = false)
      (hOpen : c.bodyOpen = false)
      (hAccepted : accepted log = [])
  | held
      (hStreamed : IsStreamed log)
      (hHeld : c.queueHeld = true)
      (hChunks : accepted log = frames log ++ c.queue)
      (hParked : c.parked = decide (bufferSize < c.queue.length))
      (hRoom : c.queue.length ≤ bufferSize + 1)
  | dropped
      (hStreamed : IsStreamed log)
      (hGone : c.receiver = .gone)
      (hDropped :
        ∃ e ∈ log, e.step = .dropPending ∨ e.step = .dropBody)
      (hPrefix : frames log <+: accepted log)
      (hRoom :
        (accepted log).length ≤
          (frames log).length + (bufferSize + 1))

namespace ChunkBooks

/- A step that moves no chunk keeps the books. -/
theorem keep
    (h : ChunkBooks log c)
    {e : Entry}
    (hOpens : ¬ e.OpensStream)
    (hAccepted : e.accepted? = none)
    (hFrame : e.frame? = none)
    (hHeld : c'.queueHeld = c.queueHeld)
    (hGone : c.receiver = .gone → c'.receiver = .gone)
    (hOpen : c'.bodyOpen = true → c.bodyOpen = true)
    (hParked : c'.parked = c.parked)
    (hQueue : c'.queue = c.queue) :
    ChunkBooks (log ++ [e]) c' := by
  have hSame : IsStreamed (log ++ [e]) ↔ IsStreamed log := by
    simp [isStreamed_snoc, hOpens]
  cases h with
  | closed hStreamed hUnheld hShut hNone =>
      have hStays : c'.bodyOpen = false := by
        rw [← Bool.not_eq_true]
        intro hNow
        simp [hOpen hNow] at hShut
      exact .closed (hSame.not.mpr hStreamed)
        (hHeld.trans hUnheld) hStays (by
          simp [hNone, hAccepted])
  | held hStreamed hHolds hChunks hPark hRoom =>
      refine .held (hSame.mpr hStreamed) (hHeld.trans hHolds)
        ?_ ?_ ?_
      · simp [hChunks, hAccepted, hFrame, hQueue]
      · rw [hParked, hQueue, hPark]
      · rw [hQueue]
        exact hRoom
  | dropped hStreamed hWent hDropped hPrefix hRoom =>
      rcases hDropped with ⟨f, hf, hDrop⟩
      refine .dropped (hSame.mpr hStreamed) (hGone hWent)
        ⟨f, List.mem_append_left _ hf, hDrop⟩ ?_ ?_
      · simpa [hAccepted, hFrame] using hPrefix
      · simpa [hAccepted, hFrame] using hRoom

/- The stream is opened with nothing in its queue. -/
theorem opened
    {status : Nat}
    (h : Untouched log c) :
    ChunkBooks
      (log ++ [⟨.sendHead status, .sent (.ready (.ok ()))⟩])
      { c with
        headUnsent := false
        headers := .empty
        bodyOpen := true
        receiver := .ready ⟨status, c.headers⟩ .queued } := by
  have hStreamed :
      IsStreamed
        (log ++ [⟨.sendHead status, .sent (.ready (.ok ()))⟩]) :=
    isStreamed_snoc.mpr (Or.inr trivial)
  refine .held hStreamed rfl ?_ ?_ ?_
  · simp [h.accepted_eq, h.frames_eq, h.queue_eq,
      Entry.accepted?, Entry.frame?]
  · simp [h.parked_eq, h.queue_eq]
  · simp [h.queue_eq]

/- An accepted chunk waits behind the others. -/
theorem write
    (h : ChunkBooks log c)
    {chunk : ByteArray}
    (hOpen : c.bodyOpen = true)
    (hHeld : c.queueHeld = true)
    (hParked : c.parked = false) :
    ChunkBooks
      (log ++ [⟨.write chunk, .sent (.ready (.ok ()))⟩])
      { c with
        queue := c.queue ++ [chunk]
        parked := bufferSize < (c.queue ++ [chunk]).length } := by
  cases h with
  | closed _ _ hShut => simp [hOpen] at hShut
  | dropped _ hGone => simp [queueHeld, hGone] at hHeld
  | held hStreamed _ hChunks hPark _ =>
      have hFree : c.queue.length ≤ bufferSize := by
        rw [hParked] at hPark
        simpa using hPark.symm
      refine .held (isStreamed_snoc.mpr (Or.inl hStreamed)) hHeld
        ?_ rfl ?_
      · simp [hChunks, Entry.accepted?, Entry.frame?]
      · simpa using hFree

/- A chunk that is polled was the first to wait. -/
theorem take
    (h : ChunkBooks log c)
    {chunk : ByteArray}
    {rest : List ByteArray}
    (hReading : c.receiver = .reading .queued)
    (hQueue : c.queue = chunk :: rest) :
    ChunkBooks
      (log ++ [⟨.takeFrame, .taken (.frame (.ok chunk))⟩])
      { c with queue := rest, parked := false } := by
  have hHeld : c.queueHeld = true := by
    simp [queueHeld, hReading]
  cases h with
  | closed _ hUnheld => simp [hHeld] at hUnheld
  | dropped _ hGone => simp [hReading] at hGone
  | held hStreamed _ hChunks _ hRoom =>
      have hFree : rest.length ≤ bufferSize := by
        simpa [hQueue] using hRoom
      refine .held (isStreamed_snoc.mpr (Or.inl hStreamed)) hHeld
        ?_ ?_ ?_
      · simp [hChunks, hQueue, Entry.accepted?, Entry.frame?]
      · simpa using hFree
      · exact Nat.le_succ_of_le hFree

/- Whoever drops the body loses what waits. -/
theorem drop
    (h : ChunkBooks log c)
    (hStep : s = .dropPending ∨ s = .dropBody) :
    ChunkBooks (log ++ [⟨s, .dropped⟩])
      { c with receiver := .gone, queue := [] } := by
  have hSilent :
      Entry.accepted? ⟨s, .dropped⟩ = none ∧
        Entry.frame? ⟨s, .dropped⟩ = none ∧
        ¬ Entry.OpensStream ⟨s, .dropped⟩ := by
    rcases hStep with rfl | rfl <;> exact ⟨rfl, rfl, id⟩
  have hSame :
      IsStreamed (log ++ [⟨s, .dropped⟩]) ↔ IsStreamed log := by
    simp [isStreamed_snoc, hSilent.2.2]
  have hDropped :
      ∃ e ∈ log ++ [(⟨s, .dropped⟩ : Entry)],
        e.step = .dropPending ∨ e.step = .dropBody :=
    ⟨_, List.mem_append_right _ List.mem_cons_self, hStep⟩
  cases h with
  | closed hStreamed _ hShut hNone =>
      exact .closed (hSame.not.mpr hStreamed) rfl hShut (by
        simp [hNone, hSilent.1])
  | held hStreamed _ hChunks _ hRoom =>
      refine .dropped (hSame.mpr hStreamed) rfl hDropped ?_ ?_
      · simp [hChunks, hSilent.1, hSilent.2.1]
      · simpa [hChunks, hSilent.1, hSilent.2.1] using hRoom
  | dropped hStreamed _ _ hPrefix hRoom =>
      refine .dropped (hSame.mpr hStreamed) rfl hDropped ?_ ?_
      · simpa [hSilent.1, hSilent.2.1] using hPrefix
      · simpa [hSilent.1, hSilent.2.1] using hRoom

/- A complete body has no part in the books of the chunks. -/
theorem poll
    (h : ChunkBooks log c)
    {body rest : Body}
    {frame : Frame}
    (hReading : c.receiver = .reading (.once body)) :
    ChunkBooks (log ++ [⟨.takeFrame, .taken (.frame frame)⟩])
      { c with receiver := .reading (.once rest) } := by
  have hUnheld : c.queueHeld = false := by
    simp [queueHeld, hReading]
  cases h with
  | held _ hHeld => simp [hUnheld] at hHeld
  | dropped _ hGone => simp [hReading] at hGone
  | closed hStreamed _ hShut hNone =>
      refine .closed ?_ rfl hShut ?_
      · simp [isStreamed_snoc, hStreamed, Entry.OpensStream]
      · simp [hNone, Entry.accepted?]

/- Every step keeps the books of the chunks. -/
theorem step
    (h : ChunkBooks log c)
    (hHead : HeadBooks log c)
    (hMoves : Moves c s answer c') :
    ChunkBooks (log ++ [⟨s, answer⟩]) c' := by
  cases hMoves with
  | edited _ hHeader =>
      have hQuiet := Entry.isQuiet_of_isHeader hHeader
      exact h.keep
        (Entry.not_opensStream (hQuiet _).attempted?_eq)
        (hQuiet _).accepted?_eq rfl rfl id id rfl rfl
  | opened _ hUnsent => exact .opened (hHead.untouched hUnsent)
  | completed _ _ hWaiting =>
      have hHeld : c.queueHeld = false := by
        simp [queueHeld, hWaiting]
      have hGone : c.receiver ≠ .gone := by simp [hWaiting]
      exact h.keep id rfl rfl hHeld.symm
        (fun hWent => absurd hWent hGone)
        (fun hOpen => by cases hOpen) rfl rfl
  | lost =>
      exact h.keep (by cases s <;> exact id)
        (by cases s <;> rfl) rfl rfl id id rfl rfl
  | refused =>
      exact h.keep (by cases s <;> exact id)
        (by cases s <;> rfl) rfl rfl id id rfl rfl
  | queued _ hOpen hHeld hParked =>
      exact h.write hOpen hHeld hParked
  | senderDropped =>
      exact h.keep id rfl rfl rfl id
        (fun hOpen => by cases hOpen) rfl rfl
  | @received head body hReady =>
      have hHeld :
          queueHeld { c with receiver := .reading body } =
            c.queueHeld := by
        cases body <;> simp [queueHeld, hReady]
      exact h.keep id rfl rfl hHeld
        (fun hGone => by simp [hReady] at hGone) id rfl rfl
  | gaveUp hWaiting _ hQuiet =>
      have hHeld : c.queueHeld = false := by
        simp [queueHeld, hWaiting]
      exact h.keep (Entry.not_opensStream hQuiet.attempted?_eq)
        hQuiet.accepted?_eq hQuiet.frame?_eq hHeld.symm
        (fun _ => rfl) id rfl rfl
  | pendingDropped => exact h.drop (Or.inl rfl)
  | bodyDropped => exact h.drop (Or.inr rfl)
  | polled hReading => exact h.poll hReading
  | exhausted hReading =>
      have hHeld : c.queueHeld = false := by
        simp [queueHeld, hReading]
      exact h.keep id rfl rfl hHeld.symm
        (fun hGone => by simp [hReading] at hGone) id rfl rfl
  | taken hReading hQueue => exact h.take hReading hQueue
  | idle _ hQuiet =>
      exact h.keep (Entry.not_opensStream hQuiet.attempted?_eq)
        hQuiet.accepted?_eq hQuiet.frame?_eq rfl id id rfl rfl

end ChunkBooks

/- The books of the chunks are kept along every run. -/
theorem chunkBooks
    (steps : List Step) :
    ChunkBooks (history steps) (after steps) := by
  induction steps using List.reverseRecOn with
  | nil =>
      refine .closed ?_ rfl rfl rfl
      rintro ⟨e, he, _⟩
      cases he
  | append_singleton steps s ih =>
      rw [history_snoc, after_snoc]
      exact ih.step (headBooks steps)
        (moves_step (after steps) s)

end Courier.Channel
