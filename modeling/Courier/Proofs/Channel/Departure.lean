import Courier.Proofs.Channel.Ends

/-
  What the sender learns of a client that left. Asked whether
  the client is gone, a channel answers truly as long as there
  is something left to send it. A head that was lost leaves
  nothing to send, and the client counts as there again.

  Main statements:
    * `Channel.isClosed_after_iff`
    * `Channel.isClosed_stays_iff`
-/

namespace Courier.Channel

variable {log : List Entry} {c c' : Channel}
variable {s : Step} {answer : StepAnswer}
variable {steps later : List Step}

------------------------------------------------------------
-- What is answered
------------------------------------------------------------

/-
  A client that is gone is noticed while its head is unsent or
  its body is open.
-/
theorem isClosed_iff
    (hHead : HeadBooks log c)
    (hChunks : ChunkBooks log c) :
    c.isClosed = true ↔
      c.receiver = .gone ∧
        (c.headUnsent = true ∨ c.bodyOpen = true) := by
  cases hUnsent : c.headUnsent with
  | true =>
      rcases (hHead.untouched hUnsent).receiver_eq with
        hWaiting | hGone
      · simp [isClosed, hUnsent, hWaiting]
      · simp [isClosed, hUnsent, hGone]
  | false =>
      cases hOpen : c.bodyOpen with
      | false => simp [isClosed, hUnsent, hOpen]
      | true =>
          cases hChunks with
          | closed _ _ hShut => simp [hOpen] at hShut
          | held _ hHeld =>
              have hThere : c.receiver ≠ .gone := by
                intro hGone
                simp [queueHeld, hGone] at hHeld
              simp [isClosed, hUnsent, hOpen, hHeld, hThere]
          | dropped _ hGone =>
              simp [isClosed, hUnsent, hOpen, queueHeld, hGone]

/- Only a sender that is there is answered. -/
theorem step_isClosed_iff :
    (c.step .isClosed).1 = .closed true ↔
      c.senderAlive = true ∧ c.isClosed = true := by
  cases hAlive : c.senderAlive <;>
    simp [step, sendingStep, hAlive]

/-
  The sender learns that the client is gone until it attempts a
  head, and behind that only from a streamed body.
-/
theorem isClosed_after_iff :
    ((after steps).step .isClosed).1 = .closed true ↔
      .dropSender ∉ steps ∧ (after steps).receiver = .gone ∧
        ((∀ s ∈ steps, ¬ s.IsAttempt) ∨
          IsStreamed (history steps)) := by
  rw [step_isClosed_iff, senderAlive_after_iff]
  refine and_congr_right fun hAlive => ?_
  have hUnsent :
      (after steps).headUnsent = true ↔
        ∀ s ∈ steps, ¬ s.IsAttempt := by
    rw [← Bool.not_eq_false, headUnsent_after_iff hAlive]
    simp
  rw [isClosed_iff (headBooks steps) (chunkBooks steps), hUnsent,
    bodyOpen_after_iff]
  simp [hAlive]

------------------------------------------------------------
-- What is answered later
------------------------------------------------------------

/- A stream needs an attempt to send its head. -/
theorem exists_isAttempt_of_isStreamed
    (hStreamed : IsStreamed (history steps)) :
    ∃ s ∈ steps, s.IsAttempt := by
  rcases hStreamed with ⟨e, he, hOpens⟩
  rcases (Entry.opensStream_iff.mp hOpens).1 with ⟨status, hStep⟩
  have hMem : e.step ∈ steps := by
    rw [← map_step_history steps]
    exact List.mem_map_of_mem he
  refine ⟨e.step, hMem, ?_⟩
  rw [hStep]
  trivial

/- No stream is opened for a client that is gone. -/
theorem isStreamed_after_gone
    (hGone : (after steps).receiver = .gone)
    (later : List Step) :
    IsStreamed (history (steps ++ later)) ↔
      IsStreamed (history steps) := by
  induction later using List.reverseRecOn with
  | nil => simp
  | append_singleton later s ih =>
      have hShut :
          ¬ Entry.OpensStream
            ⟨s, ((after (steps ++ later)).step s).1⟩ := by
        intro hOpens
        have hWaiting :=
          (ends_of_opensStream (moves_step _ s) hOpens).2
        simp [gone_after hGone later] at hWaiting
      rw [← List.append_assoc, history_snoc, isStreamed_snoc, ih]
      simp [hShut]

/-
  Once the sender was told that the client is gone it is told so
  again, unless its first attempt to send a head came between.
-/
theorem isClosed_stays_iff
    (hClosed : ((after steps).step .isClosed).1 = .closed true)
    (hAlive : .dropSender ∉ later) :
    ((after (steps ++ later)).step .isClosed).1 =
        .closed true ↔
      (∃ s ∈ steps, s.IsAttempt) ∨
        ∀ s ∈ later, ¬ s.IsAttempt := by
  rcases isClosed_after_iff.mp hClosed with
    ⟨hBefore, hGone, hKnown⟩
  have hStays : .dropSender ∉ steps ++ later := by
    simp [hBefore, hAlive]
  rw [isClosed_after_iff, isStreamed_after_gone hGone later]
  simp only [hStays, not_false_eq_true, gone_after hGone later,
    true_and]
  rcases hKnown with hNone | hStreamed
  · -- the head is unsent: its first attempt loses it
    have hShut : ¬ IsStreamed (history steps) := by
      intro hStreamed
      rcases exists_isAttempt_of_isStreamed hStreamed with
        ⟨s, hs, hAttempt⟩
      exact hNone s hs hAttempt
    constructor
    · rintro (hAll | hStreamed)
      · exact Or.inr fun s hs =>
          hAll s (List.mem_append_right _ hs)
      · exact absurd hStreamed hShut
    · rintro (⟨s, hs, hAttempt⟩ | hLater)
      · exact absurd hAttempt (hNone s hs)
      · refine Or.inl fun s hs => ?_
        rcases List.mem_append.mp hs with hOld | hNew
        · exact hNone s hOld
        · exact hLater s hNew
  · -- the body of the stream stays open
    exact iff_of_true (Or.inr hStreamed)
      (Or.inl (exists_isAttempt_of_isStreamed hStreamed))

/- A stream that the client left stays closed. -/
theorem isClosed_stays_of_left_stream :
    ((after
      [.sendHead 200, .takeResponse, .dropBody, .isClosed,
        .write "late".toUTF8, .sendFull 500 "".toUTF8]).step
      .isClosed).1 = .closed true :=
  (@isClosed_stays_iff
    [.sendHead 200, .takeResponse, .dropBody]
    [.isClosed, .write "late".toUTF8, .sendFull 500 "".toUTF8]
    rfl (by simp)).mpr (Or.inl ⟨.sendHead 200, by simp, trivial⟩)

/-
  A head sent to a client that is gone is refused, and the
  client counts as there again.
-/
theorem lost_head_forgets_departure :
    let steps : List Step := [.dropPending, .isClosed]
    let later : List Step := [.sendHead 200]
    ((after steps).step .isClosed).1 = .closed true ∧
      .dropSender ∉ later ∧
      ((after (steps ++ later)).step .isClosed).1 =
        .closed false := by
  refine ⟨rfl, by simp, rfl⟩

end Courier.Channel
