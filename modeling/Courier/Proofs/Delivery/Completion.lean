import Courier.Proofs.Delivery.MemoryAnswer
import Courier.Proofs.Source.File
import Mathlib.Control.Monad.Basic

/-
  What a streamed delivery that is reported as completed has
  sent. The client saw a head and the chunks of a body, no more
  bytes than the head announced. It saw fewer just when the
  source ended before it had given that many.

  Key definitions include:
    * `Trace.EndsEarly`
    * `Ranged.Completes`

  Main statements:
    * `Ranged.Pumps.signals_of_completed`
    * `Ranged.Pumps.completed_lt_iff`
    * `Ranged.stream_completes`
-/

namespace Courier

------------------------------------------------------------
-- The end of a source
------------------------------------------------------------

namespace Trace

/-
  The source ends, by a chunk that is the last one or that is
  empty, before all the bytes that are owed were flushed.
-/
def EndsEarly
    (owed : Nat)
    (es : List Event) : Prop :=
  ∃ before upTo chunk last after,
    es = before ++ .read upTo (.ok (chunk, last)) :: after ∧
      (last = true ∨ chunk.size = 0) ∧
      total (flushed before) + chunk.size < owed

/- Nothing is missing where nothing is owed. -/
theorem not_endsEarly_zero
    (es : List Event) :
    ¬ EndsEarly 0 es := by
  rintro ⟨_, _, _, _, _, _, _, hLess⟩
  exact Nat.not_lt_zero _ hLess

/- Quiet events around others do not change how these end. -/
theorem endsEarly_between
    {front es : List Event}
    {back : Event}
    (hFront : ∀ e ∈ front, e.IsQuiet)
    (hBack : back.IsQuiet)
    (owed : Nat) :
    EndsEarly owed (front ++ es ++ [back]) ↔
      EndsEarly owed es := by
  constructor
  · rintro ⟨before, upTo, chunk, last, after, hEvents, hEnded,
      hLess⟩
    rcases read_between hFront hBack hEvents with
      ⟨inner, rest, hEs, hFlushed⟩
    rw [hFlushed] at hLess
    exact ⟨inner, upTo, chunk, last, rest, hEs, hEnded, hLess⟩
  · rintro ⟨inner, upTo, chunk, last, rest, rfl, hEnded, hLess⟩
    refine ⟨front ++ inner, upTo, chunk, last, rest ++ [back],
      by simp, hEnded, ?_⟩
    rwa [flushed_append_of_quiet hFront]

end Trace

namespace Ranged

open Exchange Trace

------------------------------------------------------------
-- The loop
------------------------------------------------------------

namespace Pumps

variable {σ : Type} [ByteSource σ]
variable {chunkSize owed sent n : Nat} {s s' : σ}
variable {es : List Event} {result : Result}

/- What is let through are the chunks that were flushed. -/
theorem signals_of_completed
    (h : Pumps chunkSize owed sent s es result s')
    (hResult : result = .ok (.completed n)) :
    signals es = pushes (flushed es) := by
  induction h with
  | done => rfl
  | gone => cases hResult
  | unread => cases hResult
  | @broken _ _ _ _ _ e => cases e <;> cases hResult
  | ended => simp [Event.signals, flushed]
  | round _ _ _ _ ih =>
      simp [Event.signals, flushed, ih hResult]

/- No more is sent than is owed. -/
theorem completed_le
    [ByteSource.Bounded σ]
    (h : Pumps chunkSize owed sent s es result s')
    (hResult : result = .ok (.completed n))
    (hSent : sent ≤ owed) :
    n ≤ owed := by
  induction h with
  | done =>
      cases hResult
      exact hSent
  | gone => cases hResult
  | unread => cases hResult
  | @broken _ _ _ _ _ e => cases e <;> cases hResult
  | ended _ hRead =>
      have hSize := size_le_of_read hRead
      cases hResult
      omega
  | round _ hRead _ _ ih =>
      have hSize := size_le_of_read hRead
      exact ih hResult (by omega)

/- Less than is owed is sent when the source ended. -/
theorem exists_end_of_completed
    (h : Pumps chunkSize owed sent s es result s')
    (hResult : result = .ok (.completed n))
    (hLess : n < owed) :
    ∃ before upTo chunk last after,
      es = before ++ .read upTo (.ok (chunk, last)) :: after ∧
        (last = true ∨ chunk.size = 0) ∧
        n = sent + total (flushed before) + chunk.size := by
  induction h with
  | done hDone =>
      cases hResult
      omega
  | gone => cases hResult
  | unread => cases hResult
  | @broken _ _ _ _ _ e => cases e <;> cases hResult
  | ended _ _ hEnded =>
      cases hResult
      exact ⟨asks chunkSize owed, _, _, _, _, rfl, hEnded,
        by simp⟩
  | @round sent _ _ _ chunk _ _ _ _ _ _ ih =>
      rcases ih hResult with
        ⟨before, upTo, final, last, after, rfl, hEnded, hCount⟩
      refine ⟨asks chunkSize owed ++
          .read (min chunkSize (owed - sent))
              (.ok (chunk, false)) ::
            .write chunk (.ok ()) :: .flush (.ok ()) :: before,
        upTo, final, last, after, by simp, hEnded, ?_⟩
      simp [flushed]
      omega

/- A chunk that ends the source is the last one that is sent. -/
theorem completed_eq_of_end
    (h : Pumps chunkSize owed sent s es result s')
    (hResult : result = .ok (.completed n))
    {before after : List Event}
    {upTo : Nat} {chunk : ByteArray} {last : Bool}
    (hRead :
      es = before ++ .read upTo (.ok (chunk, last)) :: after)
    (hEnded : last = true ∨ chunk.size = 0) :
    n = sent + total (flushed before) + chunk.size := by
  -- A round that is followed by another has not ended.
  induction h generalizing before with
  | done => simp at hRead
  | gone => cases hResult
  | unread => cases hResult
  | @broken _ _ _ _ _ e => cases e <;> cases hResult
  | ended =>
      cases hResult
      rcases read_split hRead with
        ⟨rfl, _, hAnswer⟩ | ⟨between, _, hRest⟩
      · cases hAnswer
        simp
      · have hMem :=
          congrArg (.read upTo (.ok (chunk, last)) ∈ ·) hRest
        simp at hMem
  | round _ _ hChunk _ ih =>
      rcases read_split_round hRead with
        ⟨_, _, hAnswer⟩ | ⟨later, rfl, hRest⟩
      · cases hAnswer
        rcases hEnded with hLast | hEmpty
        · cases hLast
        · omega
      · have hLater := ih hResult hRest
        simp [flushed]
        omega

/- Fewer bytes than are owed are sent if the source ends so. -/
theorem completed_lt_iff
    (h : Pumps chunkSize owed 0 s es result s')
    (hResult : result = .ok (.completed n)) :
    n < owed ↔ EndsEarly owed es := by
  constructor
  · intro hLess
    rcases h.exists_end_of_completed hResult hLess with
      ⟨before, upTo, chunk, last, after, hRead, hEnded, hCount⟩
    rw [Nat.zero_add] at hCount
    exact ⟨before, upTo, chunk, last, after, hRead, hEnded,
      by rwa [← hCount]⟩
  · rintro ⟨before, upTo, chunk, last, after, hRead, hEnded,
      hLess⟩
    have hCount := h.completed_eq_of_end hResult hRead hEnded
    omega

end Pumps

------------------------------------------------------------
-- Every run
------------------------------------------------------------

variable {τ σ : Type} [Connection τ] [ByteSource σ]
variable [ByteSource.Bounded σ]

/-
  What the events of a completed delivery show: a head that
  announces a number of bytes, and chunks of the bytes that are
  reported, which are all of them unless the source ended.
-/
structure Completes
    (owed sent : Nat)
    (es : List Event) : Prop where
  shows :
    ∃ status headers chunks,
      signals es = .head status headers :: pushes chunks ∧
        headers.getAll "Content-Length" = [toString owed] ∧
        total chunks = sent
  sent_le : sent ≤ owed
  lt_iff : sent < owed ↔ EndsEarly owed es

/- Every run up to the end of the sending. -/
theorem Sends.exists_completes
    {source source' : σ}
    {status sent : Nat}
    {contentType rangeHeader : Option String}
    {settings : StreamSettings}
    {w : WireHeaders}
    {es : List Event}
    {result : Result}
    (hSends :
      Sends source status contentType rangeHeader settings w es
        result source')
    (hResult : result = .ok (.completed sent))
    {back : Event}
    (hBack : back.IsAside) :
    ∃ owed, Completes owed sent (es ++ [back]) := by
  have hSilent : signals [back] = [] :=
    signals_eq_nil (by simpa using hBack)
  cases hSends with
  | @bodyless v b answer es hVerdict hBody hCalls =>
      -- the one completed delivery without a body is empty
      cases answer with
      | error e => cases hResult
      | ok _ =>
          cases v <;> cases hBody <;> cases hResult
          generalize hHeaders :
              applyEdits w
                  (streamEdits contentType settings
                    ++ [.set "Content-Length" "0"]) =
                headers at hCalls
          have hHead : signals es = [.head status headers] := by
            rcases hCalls.of_empty with rfl | rfl <;> rfl
          refine ⟨0, ⟨status, headers, [], ?_, ?_, rfl⟩,
            Nat.le_refl _, ?_⟩
          · rw [signals_append, signals_append,
              signals_map_edit, hHead, hSilent]
            rfl
          · rw [← hHeaders]
            exact getAll_contentLength_append _ (by decide) w
          · exact iff_of_false (Nat.lt_irrefl _)
              (not_endsEarly_zero _)
  | @exhausted _ _ _ _ answer =>
      cases answer <;> cases hResult
  | unsent => cases hResult
  | @served start stop asked _ _ edits es _ _ _ hEdits hPumps =>
      have hCount :=
        hPumps.eq_sent_add_total_flushed (Or.inl hResult)
      have hFront :
          ∀ e ∈ (edits.map Event.edit ++ [.skip start false]) ++
              [.head (partStatus asked status)
                (applyEdits w edits) (.ok ())],
            e.IsQuiet :=
        Event.isQuiet_of_mem_append_head
          (Event.isAside_edits_skip edits start false)
      have hEvents :
          edits.map Event.edit ++ .skip start false ::
              .head (partStatus asked status)
                (applyEdits w edits) (.ok ()) :: es ++ [back] =
            (edits.map Event.edit ++ [.skip start false]) ++
              [.head (partStatus asked status)
                (applyEdits w edits) (.ok ())] ++ es ++
              [back] := by
        simp
      refine ⟨stop - start + 1,
        ⟨partStatus asked status, applyEdits w edits, flushed es,
          ?_, ?_, by omega⟩,
        hPumps.completed_le hResult (Nat.zero_le _), ?_⟩
      · simp [Event.signals, hSilent,
          hPumps.signals_of_completed hResult]
      · rw [hEdits, applyEdits_append]
        exact getAll_contentLength_partEdits _ _ _ _
      · rw [hEvents, endsEarly_between hFront hBack.1]
        exact hPumps.completed_lt_iff hResult

/-
  Over every connection and from every source that answers no
  more bytes than it was asked for, a delivery that is reported
  as completed sent what its head announced, unless the source
  ended early.
-/
theorem stream_completes
    (source : σ)
    (status : Nat)
    (contentType rangeHeader : Option String)
    (settings : StreamSettings)
    (x : Exchange τ)
    (sent : Nat) :
    let run :=
      perform
        (stream source status contentType rangeHeader settings)
        x
    run.1 = .ok (.completed sent) →
      ∃ owed, Completes owed sent (since x run.2) := by
  intro run hCompleted
  rcases perform_stream source status contentType rangeHeader
      settings x with
    ⟨result, source', es, x', hRun, hSends, hLeads⟩
  have hResult : result = .ok (.completed sent) := by
    rw [← hCompleted]
    exact congrArg Prod.fst hRun.symm
  have hEvents :
      since x run.2 =
        es ++ [.close (ByteSource.close source').1] := by
    rw [← hLeads.since_eq]
    exact congrArg (fun r => since x r.2) hRun
  rw [hEvents]
  exact hSends.exists_completes hResult
    (Event.isAside_close _)

/- A file of five bytes. -/
def fiveBytes : ByteArray :=
  ⟨#[104, 101, 108, 108, 111]⟩

/- Three bytes of a file in chunks of two, and all of them. -/
theorem stream_completes_of_part_of_file :
    let settings : StreamSettings := { chunkSize := 2 }
    let x : Exchange PlannedConnection := .start {}
    let run :=
      perform
        (stream (FileSource.ofContent fiveBytes) 200 none
          (some "bytes=1-3") settings) x
    run.1 = .ok (.completed 3) ∧
      ∃ owed, Completes owed 3 (since x run.2) := by
  intro settings x run
  have hCompleted :
      (perform
        (stream (FileSource.ofContent fiveBytes) 200 none
          (some "bytes=1-3") { chunkSize := 2 })
        (Exchange.start ({} : PlannedConnection))).1 =
          .ok (.completed 3) := by
    decide +kernel
  exact ⟨hCompleted,
    stream_completes (FileSource.ofContent fiveBytes) 200 none
      (some "bytes=1-3") settings x 3 hCompleted⟩

/-
  A file that was cut off behind the back of its source is
  streamed as complete with two of the five bytes that the head
  announces.
-/
theorem stream_completes_cut_file :
    let x : Exchange PlannedConnection := .start {}
    let run :=
      perform
        (stream ((FileSource.ofContent fiveBytes).resize 2) 200
          none none {}) x
    run.1 = .ok (.completed 2) ∧
      signals (since x run.2) =
        [ .head 200 run.2.headers, .chunk ⟨#[104, 101]⟩,
          .flush ] ∧
      run.2.headers.getAll "Content-Length" = ["5"] :=
  ⟨by decide +kernel, by decide +kernel, by decide +kernel⟩

end Ranged

end Courier
