import Courier.Proofs.Channel.Books

/-
  How far both ends of a channel have come after a run, read off
  the steps and their answers: whether the sender is there, its
  head is unsent and its body open, and whether the client still
  waits, reads a body or is gone.

  Key definitions include:
    * `Channel.HoldsBody`

  Main statements:
    * `Channel.senderAlive_after_iff`
    * `Channel.headUnsent_after_iff`
    * `Channel.bodyOpen_after_iff`
    * `Channel.reading_after_iff`
    * `Channel.offered_after`
    * `Channel.gone_after`
-/

namespace Courier.Channel

variable {c c' : Channel} {s : Step} {answer : StepAnswer}
variable {log : List Entry} {steps : List Step}

------------------------------------------------------------
-- The sending end
------------------------------------------------------------

/- Only giving up the sender makes it go away. -/
theorem senderAlive_of_moves
    (hMoves : Moves c s answer c')
    (hStep : s ≠ .dropSender) :
    c'.senderAlive = c.senderAlive := by
  cases hMoves with
  | senderDropped => exact absurd rfl hStep
  | _ => rfl

/- The sender is there as long as it was not given up. -/
theorem senderAlive_after_iff :
    (after steps).senderAlive = true ↔ .dropSender ∉ steps := by
  induction steps using List.reverseRecOn with
  | nil => simp [after, run, fresh]
  | append_singleton steps s ih =>
      rw [after_snoc]
      by_cases hStep : s = .dropSender
      · subst hStep
        simp [step, dropSender]
      · rw [senderAlive_of_moves (moves_step _ s) hStep, ih]
        simp [Ne.symm hStep]

/- An attempt of a sender that is there spends the head. -/
theorem headUnsent_of_isAttempt
    (hMoves : Moves c s answer c')
    (hAlive : c.senderAlive = true)
    (hAttempt : s.IsAttempt) :
    c'.headUnsent = false := by
  cases hMoves with
  | edited _ hHeader =>
      cases s <;> first | exact hHeader.elim | exact hAttempt.elim
  | opened => rfl
  | completed => rfl
  | lost => rfl
  | refused _ _ hSpent => exact hSpent
  | gaveUp _ hStep =>
      rcases hStep with rfl | rfl <;> exact hAttempt.elim
  | idle hOther => exact absurd hAttempt (hOther hAlive).2
  | _ => exact hAttempt.elim

/- Nothing else does. -/
theorem headUnsent_of_not_isAttempt
    (hMoves : Moves c s answer c')
    (hOther : ¬ s.IsAttempt) :
    c'.headUnsent = c.headUnsent := by
  cases hMoves with
  | opened => exact absurd trivial hOther
  | completed => exact absurd trivial hOther
  | lost _ hAttempt => exact absurd hAttempt hOther
  | _ => rfl

/- The head of a sender is unsent until it attempts one. -/
theorem headUnsent_after_iff
    (hAlive : .dropSender ∉ steps) :
    (after steps).headUnsent = false ↔
      ∃ s ∈ steps, s.IsAttempt := by
  induction steps using List.reverseRecOn with
  | nil => simp [after, run, fresh]
  | append_singleton steps s ih =>
      have hBefore : .dropSender ∉ steps :=
        fun hMem => hAlive (List.mem_append_left _ hMem)
      rw [after_snoc]
      by_cases hAttempt : s.IsAttempt
      · rw [headUnsent_of_isAttempt (moves_step _ s)
          (senderAlive_after_iff.mpr hBefore) hAttempt]
        simp [hAttempt]
      · rw [headUnsent_of_not_isAttempt (moves_step _ s)
          hAttempt, ih hBefore]
        simp [or_and_right, exists_or, hAttempt]

/- What is sent was attempted. -/
theorem headUnsent_of_sent
    (hSent : sent (history steps) ≠ []) :
    (after steps).headUnsent = false := by
  rw [← Bool.not_eq_true]
  intro hUnsent
  exact hSent ((headBooks steps).untouched hUnsent).sent_eq

/- Sending a streamed head is what opens a stream. -/
theorem Entry.opensStream_iff
    {e : Entry} :
    e.OpensStream ↔
      (∃ status, e.step = .sendHead status) ∧
        e.answer = .sent (.ready (.ok ())) := by
  constructor
  · intro hOpens
    unfold Entry.OpensStream at hOpens
    split at hOpens
    · exact ⟨⟨_, rfl⟩, rfl⟩
    · exact hOpens.elim
  · rcases e with ⟨s, answer⟩
    rintro ⟨⟨status, rfl⟩, rfl⟩
    trivial

/- A stream is opened from a sender to a client that waits. -/
theorem ends_of_opensStream
    (hMoves : Moves c s answer c')
    (hOpens : Entry.OpensStream ⟨s, answer⟩) :
    c.senderAlive = true ∧ c.receiver = .waiting := by
  cases hMoves with
  | opened hAlive _ hWaiting => exact ⟨hAlive, hWaiting⟩
  | gaveUp _ _ hQuiet =>
      exact absurd hOpens
        (Entry.not_opensStream hQuiet.attempted?_eq)
  | idle _ hQuiet =>
      exact absurd hOpens
        (Entry.not_opensStream hQuiet.attempted?_eq)
  | _ => simp [Entry.opensStream_iff] at hOpens

/- A step of a sender that stays opens a body or leaves it. -/
theorem bodyOpen_of_moves
    (hMoves : Moves c s answer c')
    (hStep : s ≠ .dropSender)
    (hUnsent : c.headUnsent = true → c.bodyOpen = false) :
    c'.bodyOpen = true ↔
      c.bodyOpen = true ∨ Entry.OpensStream ⟨s, answer⟩ := by
  cases hMoves with
  | senderDropped => exact absurd rfl hStep
  | completed _ hStill =>
      simp [Entry.opensStream_iff, hUnsent hStill]
  | gaveUp _ _ hQuiet =>
      simp [Entry.not_opensStream hQuiet.attempted?_eq]
  | idle _ hQuiet =>
      simp [Entry.not_opensStream hQuiet.attempted?_eq]
  | _ => simp [Entry.opensStream_iff]

/- A body is open from its head to the end of the sender. -/
theorem bodyOpen_after_iff :
    (after steps).bodyOpen = true ↔
      IsStreamed (history steps) ∧ .dropSender ∉ steps := by
  induction steps using List.reverseRecOn with
  | nil => simp [after, run, fresh, history, IsStreamed]
  | append_singleton steps s ih =>
      rw [after_snoc, history_snoc, isStreamed_snoc]
      by_cases hStep : s = .dropSender
      · subst hStep
        simp [step, dropSender]
      · have hStays :
            .dropSender ∉ steps ++ [s] ↔ .dropSender ∉ steps := by
          simp [Ne.symm hStep]
        have hAlive :
            Entry.OpensStream ⟨s, ((after steps).step s).1⟩ →
              .dropSender ∉ steps := fun hOpens =>
          senderAlive_after_iff.mp
            (ends_of_opensStream (moves_step _ s) hOpens).1
        rw [bodyOpen_of_moves (moves_step _ s) hStep fun hStill =>
          ((headBooks steps).untouched hStill).bodyOpen_eq, ih,
          hStays]
        tauto

------------------------------------------------------------
-- The client's end
------------------------------------------------------------

/-
  The client holds the body of the response that it took: it did
  not drop it since.
-/
def HoldsBody
    (log : List Entry) : Prop :=
  ∃ before e later,
    log = before ++ e :: later ∧ e.response?.isSome ∧
      ∀ f ∈ later, f.step ≠ .dropBody

/- A body is held from the response on until it is dropped. -/
theorem holdsBody_snoc
    {e : Entry} :
    HoldsBody (log ++ [e]) ↔
      e.response?.isSome ∨
        HoldsBody log ∧ e.step ≠ .dropBody := by
  constructor
  · rintro ⟨before, f, later, hLog, hResponse, hKept⟩
    rcases later.eq_nil_or_concat with rfl | ⟨later, g, rfl⟩
    · rcases List.append_inj' hLog rfl with ⟨_, hLast⟩
      rw [List.singleton_inj.mp hLast]
      exact Or.inl hResponse
    · have hSplit :
          log ++ [e] = (before ++ f :: later) ++ [g] := by
        simpa using hLog
      rcases List.append_inj' hSplit rfl with ⟨hBefore, hLast⟩
      rw [List.singleton_inj.mp hLast]
      exact Or.inr
        ⟨⟨before, f, later, hBefore, hResponse,
          fun x hx => hKept x (by simp [hx])⟩,
          hKept g (by simp)⟩
  · rintro (hResponse | ⟨⟨before, f, later, rfl, hf, hKept⟩, he⟩)
    · exact ⟨log, e, [], rfl, hResponse, by simp⟩
    · refine ⟨before, f, later ++ [e], by simp, hf, ?_⟩
      intro x hx
      rcases List.mem_append.mp hx with hOld | hNew
      · exact hKept x hOld
      · rw [List.mem_singleton.mp hNew]
        exact he

/- A step that drops no body leaves the client reading. -/
theorem reading_of_moves
    (hMoves : Moves c s answer c')
    (hStep : s ≠ .dropBody) :
    (∃ body, c'.receiver = .reading body) ↔
      (Entry.response? ⟨s, answer⟩).isSome ∨
        ∃ body, c.receiver = .reading body := by
  cases hMoves with
  | bodyDropped => exact absurd rfl hStep
  | opened _ _ hWaiting => simp [Entry.response?, hWaiting]
  | completed _ _ hWaiting => simp [Entry.response?, hWaiting]
  | received => simp [Entry.response?]
  | gaveUp hWaiting _ hQuiet =>
      simp [hQuiet.response?_eq, hWaiting]
  | pendingDropped hReady => simp [Entry.response?, hReady]
  | polled hReading => simp [Entry.response?, hReading]
  | exhausted hReading => simp [Entry.response?, hReading]
  | idle _ hQuiet => simp [hQuiet.response?_eq]
  | _ => simp [Entry.response?, dropSender]

/- The client reads a body exactly while it holds it. -/
theorem reading_after_iff :
    (∃ body, (after steps).receiver = .reading body) ↔
      HoldsBody (history steps) := by
  induction steps using List.reverseRecOn with
  | nil => simp [after, run, fresh, history, HoldsBody]
  | append_singleton steps s ih =>
      rw [after_snoc, history_snoc, holdsBody_snoc]
      by_cases hStep : s = .dropBody
      · subst hStep
        have hDropped :
            ∀ body,
              (after steps).dropBody.receiver ≠ .reading body := by
          intro body
          unfold dropBody
          split <;> simp_all
        simpa [step, Entry.response?] using hDropped
      · rw [reading_of_moves (moves_step _ s) hStep, ih]
        simp [hStep]

/-
  The client neither asked for the response nor gave it up, so
  that it still waits or can still take what was sent.
-/
theorem offered_of_moves
    (hMoves : Moves c s answer c')
    (hTake : s ≠ .takeResponse)
    (hDrop : s ≠ .dropPending)
    (hOffered :
      c.receiver = .waiting ∨
        ∃ head body, c.receiver = .ready head body) :
    c'.receiver = .waiting ∨
      ∃ head body, c'.receiver = .ready head body := by
  cases hMoves with
  | opened => exact Or.inr ⟨_, _, rfl⟩
  | completed => exact Or.inr ⟨_, _, rfl⟩
  | received => exact absurd rfl hTake
  | gaveUp _ hStep =>
      rcases hStep with hStep | hStep
      · exact absurd hStep hTake
      · exact absurd hStep hDrop
  | pendingDropped => exact absurd rfl hDrop
  | bodyDropped hReading => simp [hReading] at hOffered
  | polled hReading => simp [hReading] at hOffered
  | exhausted hReading => simp [hReading] at hOffered
  | _ => exact hOffered

theorem offered_after
    (hTake : .takeResponse ∉ steps)
    (hDrop : .dropPending ∉ steps) :
    (after steps).receiver = .waiting ∨
      ∃ head body, (after steps).receiver = .ready head body := by
  induction steps using List.reverseRecOn with
  | nil => exact Or.inl rfl
  | append_singleton steps s ih =>
      simp only [List.mem_append, List.mem_singleton,
        not_or] at hTake hDrop
      rw [after_snoc]
      exact offered_of_moves (moves_step _ s) (Ne.symm hTake.2)
        (Ne.symm hDrop.2) (ih hTake.1 hDrop.1)

/- A client that is gone does not come back. -/
theorem gone_of_moves
    (hMoves : Moves c s answer c')
    (hGone : c.receiver = .gone) :
    c'.receiver = .gone := by
  cases hMoves with
  | opened _ _ hWaiting => simp [hGone] at hWaiting
  | completed _ _ hWaiting => simp [hGone] at hWaiting
  | received hReady => simp [hGone] at hReady
  | gaveUp => rfl
  | pendingDropped => rfl
  | bodyDropped => rfl
  | polled hReading => simp [hGone] at hReading
  | exhausted hReading => simp [hGone] at hReading
  | _ => exact hGone

theorem gone_after
    (hGone : (after steps).receiver = .gone)
    (later : List Step) :
    (after (steps ++ later)).receiver = .gone := by
  induction later using List.reverseRecOn with
  | nil => simpa using hGone
  | append_singleton later s ih =>
      rw [← List.append_assoc, after_snoc]
      exact gone_of_moves (moves_step _ s) ih

end Courier.Channel
