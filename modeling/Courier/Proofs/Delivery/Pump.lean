import Courier.Delivery.Ranged
import Courier.Proofs.Exchange.Trace

/-
  The loop that sends a part of a source, as a relation between
  where it starts, the events it causes and how it ends. The
  relation has one constructor for each way to leave the loop
  and one for a round that goes on; it holds for every
  connection and every source.

  Key definitions include:
    * `Ranged.stopped`
    * `Ranged.asks`
    * `Ranged.Pumps`

  Main statements:
    * `Ranged.perform_pump`
-/

namespace Courier.Ranged

open Exchange

variable {τ σ : Type} [Connection τ] [ByteSource σ]

/- How a failed write or flush ends the loop. -/
def stopped
    (sent : Nat) : SendError → Result
  | .closed => .ok (.aborted sent)
  | .io cause => .error (.send (.io cause))

/- The client is asked about when there are several chunks. -/
def asks
    (chunkSize owed : Nat) : List Event :=
  if chunkSize < owed then [.asked false] else []

/-
  From `sent` bytes on, the loop causes these events, ends with
  this result and leaves the source so.
-/
inductive Pumps
    (chunkSize owed : Nat) :
    Nat → σ → List Event → Result → σ → Prop where
  | done
      {sent : Nat} {s : σ}
      (hDone : owed ≤ sent) :
      Pumps chunkSize owed sent s [] (.ok (.completed sent)) s
  | gone
      {sent : Nat} {s : σ}
      (hOwed : sent < owed) :
      Pumps chunkSize owed sent s [.asked true]
        (.ok (.aborted sent)) s
  | unread
      {sent : Nat} {s s' : σ} {e : IoError}
      (hOwed : sent < owed)
      (hRead :
        ByteSource.read (min chunkSize (owed - sent)) s =
          (.error e, s')) :
      Pumps chunkSize owed sent s
        (asks chunkSize owed ++
          [.read (min chunkSize (owed - sent)) (.error e)])
        (.error (.io e)) s'
  | broken
      {sent : Nat} {s s' : σ} {chunk : ByteArray}
      {last : Bool} {e : SendError} {es : List Event}
      (hOwed : sent < owed)
      (hRead :
        ByteSource.read (min chunkSize (owed - sent)) s =
          (.ok (chunk, last), s'))
      (hCalls : ChunkCalls chunk (.error e) es) :
      Pumps chunkSize owed sent s
        (asks chunkSize owed ++
          .read (min chunkSize (owed - sent))
            (.ok (chunk, last)) :: es)
        (stopped sent e) s'
  | ended
      {sent : Nat} {s s' : σ} {chunk : ByteArray}
      {last : Bool}
      (hOwed : sent < owed)
      (hRead :
        ByteSource.read (min chunkSize (owed - sent)) s =
          (.ok (chunk, last), s'))
      (hEnded : last = true ∨ chunk.size = 0) :
      Pumps chunkSize owed sent s
        (asks chunkSize owed ++
          [.read (min chunkSize (owed - sent))
              (.ok (chunk, last)),
            .write chunk (.ok ()), .flush (.ok ())])
        (.ok (.completed (sent + chunk.size))) s'
  | round
      {sent : Nat} {s s' s'' : σ} {chunk : ByteArray}
      {es : List Event} {result : Result}
      (hOwed : sent < owed)
      (hRead :
        ByteSource.read (min chunkSize (owed - sent)) s =
          (.ok (chunk, false), s'))
      (hChunk : 0 < chunk.size)
      (hRest :
        Pumps chunkSize owed (sent + chunk.size) s' es
          result s'') :
      Pumps chunkSize owed sent s
        (asks chunkSize owed ++
          .read (min chunkSize (owed - sent))
              (.ok (chunk, false)) ::
            .write chunk (.ok ()) :: .flush (.ok ()) :: es)
        result s''

/-
  The question before a round: either it is answered with a
  client that is gone, or the round begins.
-/
theorem perform_askGone
    (chunkSize owed : Nat)
    (x : Exchange τ) :
    ∃ gone x',
      perform (askGone chunkSize owed) x = (gone, x') ∧
        Leads x
          (if gone then [.asked true]
            else asks chunkSize owed) x' := by
  unfold askGone
  by_cases hMany : chunkSize < owed
  · rcases perform_isClosed x with ⟨closed, x', hAsk, hLeads⟩
    refine ⟨closed, x', by rw [if_pos hMany, hAsk], ?_⟩
    cases closed <;> simpa [asks, hMany] using hLeads
  · refine ⟨false, x, by rw [if_neg hMany]; rfl, ?_⟩
    simpa [asks, hMany] using Leads.refl x

/- Every run of the loop is one of the relation. -/
theorem perform_pump
    (chunkSize owed sent : Nat)
    (source : σ)
    (x : Exchange τ) :
    ∃ result source' es x',
      perform (pump chunkSize owed sent source) x =
          ((result, source'), x') ∧
        Pumps chunkSize owed sent source es result source' ∧
        Leads x es x' := by
  -- The measure of the loop: the bytes that are still owed.
  induction hMeasure : owed - sent using Nat.strongRecOn
    generalizing sent source x with
  | ind measure ih =>
    rw [pump]
    by_cases hDone : owed ≤ sent
    · rw [dif_pos hDone]
      exact ⟨_, _, _, x, rfl, .done hDone, .refl x⟩
    have hOwed : sent < owed := Nat.lt_of_not_le hDone
    rw [dif_neg hDone]
    rcases perform_askGone chunkSize owed x with
      ⟨gone, x₁, hAsk, hLeads₁⟩
    rw [perform_bind_of_eq hAsk]
    cases gone with
    | true => exact ⟨_, _, _, x₁, rfl, .gone hOwed, hLeads₁⟩
    | false =>
      rcases perform_readFrom (min chunkSize (owed - sent))
          source x₁ with ⟨x₂, hReadFrom, hLeads₂⟩
      rw [if_neg (by simp), perform_bind_of_eq hReadFrom]
      cases hRead :
          ByteSource.read (min chunkSize (owed - sent)) source
        with
      | mk answer source' =>
        rw [hRead] at hLeads₂
        cases answer with
        | error e =>
            exact ⟨_, _, _, x₂, rfl, .unread hOwed hRead,
              hLeads₁.trans hLeads₂⟩
        | ok pair =>
          rcases pair with ⟨chunk, last⟩
          rcases perform_writeAndFlush chunk x₂ with
            ⟨answer, es, x₃, hWrite, hCalls, hLeads₃⟩
          have hLeads :=
            (hLeads₁.trans hLeads₂).trans hLeads₃
          simp only
          rw [perform_bind_of_eq hWrite]
          cases answer with
          | error e =>
              refine ⟨stopped sent e, source', _, x₃, ?_,
                .broken hOwed hRead hCalls, by
                  simpa using hLeads⟩
              cases e <;> rfl
          | ok _ =>
              cases hCalls
              by_cases hEnded :
                  (last || decide (chunk.size = 0)) = true
              · rw [dif_pos hEnded]
                refine ⟨_, _, _, x₃, rfl,
                  .ended hOwed hRead (by simpa using hEnded),
                  by simpa using hLeads⟩
              · rw [dif_neg hEnded]
                rw [Bool.or_eq_true, decide_eq_true_eq, not_or,
                  Bool.not_eq_true] at hEnded
                have hChunk : 0 < chunk.size :=
                  Nat.pos_of_ne_zero hEnded.2
                have hLast := hEnded.1
                subst hLast
                rcases ih (owed - (sent + chunk.size))
                    (by omega) (sent + chunk.size) source' x₃
                    rfl with
                  ⟨result, source'', fs, x₄, hRest, hPumps,
                    hLeads₄⟩
                exact ⟨result, source'', _, x₄, hRest,
                  .round hOwed hRead hChunk hPumps, by
                    simpa using hLeads.trans hLeads₄⟩

end Courier.Ranged
