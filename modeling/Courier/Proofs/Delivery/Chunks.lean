import Courier.Proofs.Delivery.Pump

/-
  What the sending loop keeps in step: the chunks that the
  source answers, those on the wire, the counter and the
  result. Each statement is an induction over the rounds of the
  loop, for every connection and every source.

  Main statements:
    * `Ranged.Pumps.framed`
    * `Ranged.Pumps.isBody`
    * `Ranged.Pumps.written_eq_returned`
    * `Ranged.Pumps.sent_add_total_written_le`
    * `Ranged.Pumps.eq_sent_add_total_flushed`
    * `Ranged.Pumps.eq_stopped_of_failed_send`
    * `Ranged.Pumps.eq_error_of_failed_read`
    * `Ranged.Pumps.read_owed`
    * `Ranged.Pumps.read_within`
-/

namespace Courier.Ranged

open Exchange Trace

variable {σ : Type} [ByteSource σ]

------------------------------------------------------------
-- The question before a round
------------------------------------------------------------

@[simp] theorem mem_asks
    {chunkSize owed : Nat}
    {e : Event} :
    e ∈ asks chunkSize owed ↔
      chunkSize < owed ∧ e = .asked false := by
  by_cases hMany : chunkSize < owed <;> simp [asks, hMany]

/- The question neither sends nor reads. -/
theorem isQuiet_of_mem_asks
    {chunkSize owed : Nat} :
    ∀ e ∈ asks chunkSize owed, e.IsQuiet := by
  intro e he
  rw [(mem_asks.mp he).2]
  simp [Event.IsQuiet, Event.IsSend, Event.IsRead]

@[simp] theorem calls_asks
    (chunkSize owed : Nat) :
    calls (asks chunkSize owed) = [] := by
  unfold asks
  split <;> simp [Event.IsHead, Event.IsSend]

@[simp] theorem written_asks
    (chunkSize owed : Nat) :
    written (asks chunkSize owed) = [] :=
  written_eq_nil isQuiet_of_mem_asks

@[simp] theorem returned_asks
    (chunkSize owed : Nat) :
    returned (asks chunkSize owed) = [] :=
  returned_eq_nil isQuiet_of_mem_asks

@[simp] theorem flushed_asks_append
    (chunkSize owed : Nat)
    (es : List Event) :
    flushed (asks chunkSize owed ++ es) = flushed es :=
  flushed_append_of_quiet isQuiet_of_mem_asks es

@[simp] theorem flushed_asks
    (chunkSize owed : Nat) :
    flushed (asks chunkSize owed) = [] := by
  simpa [flushed] using
    flushed_asks_append chunkSize owed []

/- A source answers no more bytes than it was asked for. -/
theorem size_le_of_read
    [ByteSource.Bounded σ]
    {n : Nat} {s s' : σ} {chunk : ByteArray} {last : Bool}
    (hRead : ByteSource.read n s = (.ok (chunk, last), s')) :
    chunk.size ≤ n :=
  ByteSource.Bounded.size_read_le n s chunk last
    (by rw [hRead])

namespace Pumps

variable {chunkSize owed sent : Nat} {s s' : σ}
variable {es : List Event} {result : Result}

------------------------------------------------------------
-- The wire
------------------------------------------------------------

/- The loop writes and flushes in pairs and does nothing else. -/
theorem framed
    (h : Pumps chunkSize owed sent s es result s') :
    Framed (calls es) := by
  induction h with
  | done => exact .nil
  | gone => simpa [Event.IsHead, Event.IsSend] using Framed.nil
  | unread =>
      simpa [Event.IsHead, Event.IsSend] using Framed.nil
  | broken _ _ hCalls =>
      simpa [Event.IsHead, Event.IsSend] using hCalls.framed
  | ended =>
      simpa [Event.IsHead, Event.IsSend] using
        Framed.pair _ .nil
  | round _ _ _ _ ih =>
      simpa [Event.IsHead, Event.IsSend] using
        Framed.pair _ ih

/- The loop sends a body and does nothing else. -/
theorem isBody
    (h : Pumps chunkSize owed sent s es result s') :
    ∀ e ∈ es, e.IsBody := by
  have hAsks : ∀ e ∈ asks chunkSize owed, e.IsBody := by
    intro e he
    rw [(mem_asks.mp he).2]
    trivial
  induction h with
  | done => simp
  | gone => simp [Event.IsBody]
  | unread =>
      intro e he
      rcases List.mem_append.mp he with hAsk | hRead
      · exact hAsks e hAsk
      · rw [List.mem_singleton.mp hRead]
        trivial
  | broken _ _ hCalls =>
      intro e he
      rcases List.mem_append.mp he with hAsk | hRound
      · exact hAsks e hAsk
      · rcases List.mem_cons.mp hRound with rfl | hCall
        · trivial
        · exact hCalls.isBody e hCall
  | ended =>
      intro e he
      rcases List.mem_append.mp he with hAsk | hRound
      · exact hAsks e hAsk
      · simp only [List.mem_cons, List.not_mem_nil,
          or_false] at hRound
        rcases hRound with rfl | rfl | rfl <;> trivial
  | round _ _ _ _ ih =>
      intro e he
      rcases List.mem_append.mp he with hAsk | hRound
      · exact hAsks e hAsk
      · simp only [List.mem_cons] at hRound
        rcases hRound with rfl | rfl | rfl | hRest
        · trivial
        · trivial
        · trivial
        · exact ih e hRest

/- What is written is what the source answered. -/
theorem written_eq_returned
    (h : Pumps chunkSize owed sent s es result s') :
    written es = returned es := by
  induction h with
  | done => rfl
  | gone => simp [written?, returned?]
  | unread => simp [written?, returned?]
  | broken _ _ hCalls =>
      cases hCalls <;> simp [written?, returned?]
  | ended => simp [written?, returned?]
  | round _ _ _ _ ih => simp [written?, returned?, ih]

/- No more is written than is owed. -/
theorem sent_add_total_written_le
    [ByteSource.Bounded σ]
    (h : Pumps chunkSize owed sent s es result s')
    (hSent : sent ≤ owed) :
    sent + total (written es) ≤ owed := by
  induction h with
  | done => simpa using hSent
  | gone => simpa [written?] using hSent
  | unread => simpa [written?] using hSent
  | broken hOwed hRead hCalls =>
      have hSize := size_le_of_read hRead
      cases hCalls <;> simp [written?] <;> omega
  | ended hOwed hRead =>
      have hSize := size_le_of_read hRead
      simp [written?]
      omega
  | round hOwed hRead _ _ ih =>
      have hSize := size_le_of_read hRead
      have hRest := ih (by omega)
      simp [written?]
      omega

------------------------------------------------------------
-- The counter and the result
------------------------------------------------------------

/- The count that a loop without failure ends with. -/
theorem eq_sent_add_total_flushed
    (h : Pumps chunkSize owed sent s es result s')
    {n : Nat}
    (hResult :
      result = .ok (.completed n) ∨
        result = .ok (.aborted n)) :
    n = sent + total (flushed es) := by
  induction h with
  | done => simpa [flushed, eq_comm] using hResult
  | gone => simpa [flushed, eq_comm] using hResult
  | unread => simp at hResult
  | @broken sent _ _ _ _ e _ _ _ hCalls =>
      have hCount : n = sent := by
        cases e <;> simp [stopped] at hResult
        exact hResult.symm
      cases hCalls <;> simp [flushed, hCount]
  | ended => simpa [flushed, eq_comm] using hResult
  | round _ _ _ _ ih =>
      have hRest := ih hResult
      simp [flushed]
      omega

/- A failed write or flush is the last one and decides. -/
theorem eq_stopped_of_failed_send
    (h : Pumps chunkSize owed sent s es result s')
    {e : SendError}
    (hFailed :
      (∃ chunk, .write chunk (.error e) ∈ es) ∨
        .flush (.error e) ∈ es) :
    result = stopped (sent + total (flushed es)) e := by
  induction h with
  | done => simp at hFailed
  | gone => simp at hFailed
  | unread => simp at hFailed
  | broken _ _ hCalls =>
      cases hCalls with
      | unwritten => 
          simp at hFailed
          simp [flushed, hFailed]
      | written => 
          simp at hFailed
          simp [flushed, hFailed]
  | ended => simp at hFailed
  | round _ _ _ _ ih =>
      have hRest := ih (by simpa using hFailed)
      simp [flushed, hRest, Nat.add_assoc]

/- A failed read ends the loop with its cause. -/
theorem eq_error_of_failed_read
    (h : Pumps chunkSize owed sent s es result s')
    {n : Nat} {e : IoError}
    (hFailed : .read n (.error e) ∈ es) :
    result = .error (.io e) := by
  induction h with
  | done => simp at hFailed
  | gone => simp at hFailed
  | unread =>
      simp at hFailed
      rw [hFailed.2]
  | broken _ _ hCalls => cases hCalls <;> simp at hFailed
  | ended => simp at hFailed
  | round _ _ _ _ ih => exact ih (by simpa using hFailed)

/-
  A read in a round is either that of the round itself or one
  of the events behind it.
-/
theorem read_split
    {m n : Nat} {a b : ReadAnswer}
    {rest before after : List Event}
    (hEvents :
      asks chunkSize owed ++ .read m b :: rest =
        before ++ .read n a :: after) :
    (before = asks chunkSize owed ∧ m = n ∧ b = a) ∨
      ∃ between,
        before =
            asks chunkSize owed ++ .read m b :: between ∧
          rest = between ++ .read n a :: after := by
  rcases List.append_eq_append_iff.mp hEvents with
    ⟨gap, hBefore, hRead⟩ | ⟨gap, hAsks, hRead⟩
  · cases gap with
    | nil =>
        simp at hRead hBefore
        exact Or.inl ⟨hBefore, hRead.1.1, hRead.1.2⟩
    | cons first gap =>
        rw [List.cons_append, List.cons.injEq] at hRead
        exact Or.inr ⟨gap, by rw [hBefore, hRead.1], hRead.2⟩
  · cases gap with
    | nil =>
        simp at hRead hAsks
        exact Or.inl
          ⟨hAsks.symm, hRead.1.1.symm, hRead.1.2.symm⟩
    | cons first gap =>
        rw [List.cons_append, List.cons.injEq] at hRead
        have hMem : first ∈ asks chunkSize owed := by
          simp [hAsks]
        rw [← hRead.1] at hMem
        simp at hMem

/-
  A read in a round that goes on is that of the round itself or
  stands in a later round.
-/
theorem read_split_round
    {m n : Nat} {a b : ReadAnswer} {chunk : ByteArray}
    {rest before after : List Event}
    (hEvents :
      asks chunkSize owed ++ .read m b ::
          .write chunk (.ok ()) :: .flush (.ok ()) :: rest =
        before ++ .read n a :: after) :
    (before = asks chunkSize owed ∧ m = n ∧ b = a) ∨
      ∃ later,
        before =
            asks chunkSize owed ++ .read m b ::
              .write chunk (.ok ()) :: .flush (.ok ()) ::
                later ∧
          rest = later ++ .read n a :: after := by
  rcases read_split hEvents with
    hFirst | ⟨between, rfl, hRest⟩
  · exact Or.inl hFirst
  · match between with
    | [] => simp at hRest
    | [_] => simp at hRest
    | _ :: _ :: later =>
        simp only [List.cons_append, List.cons.injEq] at hRest
        rcases hRest with ⟨rfl, rfl, hRest⟩
        exact Or.inr ⟨later, rfl, hRest⟩

/-
  When a source is read, bytes are owed, and as many of them are
  asked for as fit a chunk. What is answered is what the source
  answers to that.
-/
theorem read_owed
    (h : Pumps chunkSize owed sent s es result s')
    {n : Nat} {answer : ReadAnswer}
    {before after : List Event}
    (hRead : es = before ++ .read n answer :: after) :
    sent + total (flushed before) < owed ∧
      n = min chunkSize
        (owed - (sent + total (flushed before))) ∧
      ∃ t : σ, (ByteSource.read n t).1 = answer := by
  -- The read of a round comes first in it, so a read that
  -- stands behind it belongs to a later round.
  induction h generalizing before with
  | done => simp at hRead
  | gone =>
      have hMem := congrArg (.read n answer ∈ ·) hRead
      simp at hMem
  | unread hOwed hSource =>
      rcases read_split hRead with
        ⟨rfl, rfl, rfl⟩ | ⟨between, _, hRest⟩
      · simpa using ⟨hOwed, _, congrArg Prod.fst hSource⟩
      · simp at hRest
  | broken hOwed hSource hCalls =>
      rcases read_split hRead with
        ⟨rfl, rfl, rfl⟩ | ⟨between, _, hRest⟩
      · simpa using ⟨hOwed, _, congrArg Prod.fst hSource⟩
      · have hMem := congrArg (.read n answer ∈ ·) hRest
        cases hCalls <;> simp at hMem
  | ended hOwed hSource =>
      rcases read_split hRead with
        ⟨rfl, rfl, rfl⟩ | ⟨between, _, hRest⟩
      · simpa using ⟨hOwed, _, congrArg Prod.fst hSource⟩
      · have hMem := congrArg (.read n answer ∈ ·) hRest
        simp at hMem
  | round hOwed hSource _ _ ih =>
      rcases read_split_round hRead with
        ⟨rfl, rfl, rfl⟩ | ⟨later, rfl, hRest⟩
      · simpa using ⟨hOwed, _, congrArg Prod.fst hSource⟩
      · simpa [flushed, Nat.add_assoc] using ih hRest

/- Those that are answered can be counted. -/
theorem read_within
    [ByteSource.Bounded σ]
    (h : Pumps chunkSize owed sent s es result s')
    {n : Nat} {answer : ReadAnswer}
    {before after : List Event}
    (hRead : es = before ++ .read n answer :: after) :
    sent + total (flushed before) < owed ∧
      n = min chunkSize
        (owed - (sent + total (flushed before))) ∧
      ∀ chunk last, answer = .ok (chunk, last) →
        sent + total (flushed before) + chunk.size ≤ owed := by
  rcases h.read_owed hRead with ⟨hOwed, hAsked, t, hAnswer⟩
  refine ⟨hOwed, hAsked, ?_⟩
  rintro chunk last rfl
  have hSize :=
    ByteSource.Bounded.size_read_le n t chunk last hAnswer
  omega

end Pumps

end Courier.Ranged
