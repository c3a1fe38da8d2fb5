import Courier.Proofs.Delivery.Chunks
import Courier.Proofs.Delivery.Heads
import Courier.Proofs.Delivery.Lockstep
import Courier.Proofs.Range.Resolve
import Courier.Proofs.Source.Calls

/-
  How streaming uses a source. A request that selects no byte
  leaves the source alone. Otherwise the source is skipped once
  to the first selected byte and read no more often than bytes
  are selected, each time for some of those that are still owed.
  Last of all it is closed, and how that goes matters to no one.

  Key definitions include:
    * `Ranged.Picks`
    * `Ranged.Permits`
    * `Ranged.Disciplined`

  Main statements:
    * `Ranged.Pumps.exists_sizes`
    * `Ranged.Sends.disciplined`
    * `Ranged.stream_disciplined`
-/

namespace Courier

open Exchange Trace

------------------------------------------------------------
-- Calls on the source in a trace
------------------------------------------------------------

/- A call on a source. -/
def Event.IsSourceCall : Event → Prop
  | .read _ _ | .skip _ _ | .close _ => True
  | _ => False

instance : DecidablePred Event.IsSourceCall
  | .read _ _ | .skip _ _ | .close _ => instDecidableTrue
  | .edit _ | .head _ _ _ | .full _ _ _ _ | .write _ _
  | .flush _ | .asked _ | .reply _ => instDecidableFalse

namespace Trace

/- The calls on a source, in order. -/
def sourceCalls
    (es : List Event) : List Event :=
  es.filter fun e => e.IsSourceCall

@[simp] theorem sourceCalls_nil : sourceCalls [] = [] := rfl

@[simp] theorem sourceCalls_cons
    (e : Event)
    (es : List Event) :
    sourceCalls (e :: es) =
      if e.IsSourceCall then e :: sourceCalls es
      else sourceCalls es := by
  by_cases hCall : e.IsSourceCall <;>
    simp [sourceCalls, hCall]

@[simp] theorem sourceCalls_append
    (es fs : List Event) :
    sourceCalls (es ++ fs) =
      sourceCalls es ++ sourceCalls fs := by
  simp [sourceCalls]

theorem sourceCalls_eq_nil
    {es : List Event}
    (hNone : ∀ e ∈ es, ¬ e.IsSourceCall) :
    sourceCalls es = [] := by
  rw [sourceCalls, List.filter_eq_nil_iff]
  intro e he
  simpa using hNone e he

@[simp] theorem sourceCalls_edits
    (edits : List HeaderEdit) :
    sourceCalls (edits.map Event.edit) = [] :=
  sourceCalls_eq_nil (by simp [Event.IsSourceCall])

end Trace

namespace ByteSource

variable {σ : Type} [ByteSource σ]

/- The events that calls on a source cause, in order. -/
def recorded
    (s : σ) : List SourceCall → List Event
  | [] => []
  | .read upTo :: rest =>
      .read upTo (ByteSource.read upTo s).1 ::
        recorded (ByteSource.read upTo s).2 rest
  | .skip count :: rest =>
      .skip count (ByteSource.skip count s).1 ::
        recorded (ByteSource.skip count s).2 rest

/- All calls on a source: these, and last its closing. -/
def recordedClosed
    (s : σ)
    (calls : List SourceCall) : List Event :=
  recorded s calls
    ++ [.close (ByteSource.close (after s calls)).1]

/- The calls that read as many bytes as these sizes say. -/
def reads
    (sizes : List Nat) : List SourceCall :=
  sizes.map .read

end ByteSource

/- No source is called while a head is sent. -/
theorem Exchange.FullCalls.sourceCalls_eq_nil
    {status : Nat} {headers : WireHeaders}
    {answer : Sent} {es : List Event}
    (hCalls : FullCalls status headers .empty answer es) :
    sourceCalls es = [] := by
  rcases hCalls.of_empty with rfl | rfl <;>
    simp [Event.IsSourceCall]

/- Nor is one while a chunk is written. -/
theorem Exchange.ChunkCalls.sourceCalls_eq_nil
    {chunk : ByteArray} {answer : Sent} {es : List Event}
    (hCalls : ChunkCalls chunk answer es) :
    sourceCalls es = [] := by
  cases hCalls <;> simp [Event.IsSourceCall]

namespace Ranged

open ByteSource

variable {τ σ : Type} [Connection τ] [ByteSource σ]

------------------------------------------------------------
-- What a request selects
------------------------------------------------------------

/-
  The header is read without a fault, chunks have a size, and
  the bytes that are selected, all of them when no range is
  asked for, are those from one position to another.
-/
def Picks
    (length chunkSize : Nat)
    (rangeHeader : Option String)
    (start stop : Nat) : Prop :=
  ∃ requested,
    ByteRange.ofHeader rangeHeader = .ok requested ∧
      0 < chunkSize ∧
      (requested.getD (.full length)).resolve length =
        some (start, stop)

/- A request that selects bytes is one that is sent a part. -/
theorem picks_iff
    {length chunkSize start stop : Nat}
    {rangeHeader : Option String} :
    Picks length chunkSize rangeHeader start stop ↔
      ∃ asked,
        verdict length chunkSize rangeHeader =
          .part start stop asked := by
  unfold verdict
  constructor
  · rintro ⟨requested, hHeader, hChunk, hResolve⟩
    rcases (ByteRange.resolve_eq_some_iff _ _ _ _).mp hResolve
      with ⟨hLength, hStart, hStop, hLe⟩
    have hLast := ByteRange.lastOf_lt
      (requested.getD (.full length)) hLength
    have hWithin :
        (requested.getD (.full length)).start.any
          (length ≤ ·) = false := by
      cases hFirst : (requested.getD (.full length)).start with
      | none => rfl
      | some first =>
          rw [hFirst, Option.getD_some] at hStart
          simp
          omega
    refine ⟨requested.isSome, ?_⟩
    simp [hHeader, Nat.pos_iff_ne_zero.mp hChunk,
      Nat.pos_iff_ne_zero.mp hLength, hWithin, hResolve]
  · rintro ⟨asked, hVerdict⟩
    cases hHeader : ByteRange.ofHeader rangeHeader with
    | error e => cases e <;> simp [hHeader] at hVerdict
    | ok requested =>
        simp only [hHeader] at hVerdict
        split at hVerdict
        · cases hVerdict
        split at hVerdict
        · cases hVerdict
        split at hVerdict
        · cases hVerdict
        cases hResolve :
            (requested.getD (.full length)).resolve length with
        | none => simp [hResolve] at hVerdict
        | some bounds =>
            simp [hResolve] at hVerdict
            rcases hVerdict with ⟨rfl, rfl, _⟩
            exact ⟨requested, hHeader, by omega, hResolve⟩

/-
  The calls on a source, up to its closing, that a request may
  lead to.
-/
inductive Permits
    (length chunkSize : Nat)
    (rangeHeader : Option String) : List SourceCall → Prop where
  | untouched
      (hNone :
        ∀ start stop,
          ¬ Picks length chunkSize rangeHeader start stop) :
      Permits length chunkSize rangeHeader []
  | skipped
      {start stop : Nat} {sizes : List Nat}
      (hPicks :
        Picks length chunkSize rangeHeader start stop)
      (hFew : sizes.length ≤ stop - start + 1) :
      Permits length chunkSize rangeHeader
        (.skip start :: reads sizes)

theorem Permits.skipped_only
    {length chunkSize start stop : Nat}
    {rangeHeader : Option String}
    (hPicks : Picks length chunkSize rangeHeader start stop) :
    Permits length chunkSize rangeHeader [.skip start] :=
  have hFew : [].length ≤ stop - start + 1 := Nat.zero_le _
  .skipped hPicks hFew

/-
  What holds of the events of a streamed delivery as far as they
  are about the source.
-/
structure Disciplined
    (source : σ)
    (chunkSize : Nat)
    (rangeHeader : Option String)
    (es : List Event) : Prop where
  calls :
    ∃ calls,
      Permits (ByteSource.length source) chunkSize rangeHeader
          calls ∧
        sourceCalls es = recordedClosed source calls
  -- what is read is announced and owed, and fits a chunk
  read_owed :
    ∀ before n answer after,
      es = before ++ .read n answer :: after →
        ∃ start stop status headers,
          Picks (ByteSource.length source) chunkSize rangeHeader
              start stop ∧
            .head status headers (.ok ()) ∈ before ∧
            headers.getAll "Content-Length" =
              [toString (stop - start + 1)] ∧
            total (flushed before) < stop - start + 1 ∧
            1 ≤ n ∧
            n ≤ min chunkSize
              (stop - start + 1 - total (flushed before))

------------------------------------------------------------
-- The loop
------------------------------------------------------------

@[simp] theorem sourceCalls_asks
    (chunkSize owed : Nat) :
    sourceCalls (asks chunkSize owed) = [] :=
  sourceCalls_eq_nil (by simp [Event.IsSourceCall])

/-
  The loop does nothing but read from the source, at most once
  for each byte that is owed.
-/
theorem Pumps.exists_sizes
    {chunkSize owed sent : Nat} {s s' : σ}
    {es : List Event} {result : Result}
    (h : Pumps chunkSize owed sent s es result s') :
    ∃ sizes,
      sourceCalls es = recorded s (reads sizes) ∧
        s' = after s (reads sizes) ∧
        sizes.length ≤ owed - sent := by
  induction h with
  | done => exact ⟨[], rfl, rfl, Nat.zero_le _⟩
  | gone => exact ⟨[], rfl, rfl, Nat.zero_le _⟩
  | @unread sent s s' e hOwed hRead =>
      refine ⟨[min chunkSize (owed - sent)], ?_, ?_,
        Nat.sub_pos_of_lt hOwed⟩
      · simp [reads, recorded, hRead, Event.IsSourceCall]
      · simp [reads, call, hRead]
  | @broken sent s s' _ _ _ _ hOwed hRead hCalls =>
      refine ⟨[min chunkSize (owed - sent)], ?_, ?_,
        Nat.sub_pos_of_lt hOwed⟩
      · simp [reads, recorded, hRead, Event.IsSourceCall,
          hCalls.sourceCalls_eq_nil]
      · simp [reads, call, hRead]
  | @ended sent s s' _ _ hOwed hRead =>
      refine ⟨[min chunkSize (owed - sent)], ?_, ?_,
        Nat.sub_pos_of_lt hOwed⟩
      · simp [reads, recorded, hRead, Event.IsSourceCall]
      · simp [reads, call, hRead]
  | @round sent s s' s'' chunk _ _ hOwed hRead hChunk _ ih =>
      rcases ih with ⟨sizes, hCalls, hLeft, hFew⟩
      refine ⟨min chunkSize (owed - sent) :: sizes, ?_, ?_,
        ?_⟩
      · simp [reads, recorded, hRead, Event.IsSourceCall]
        exact hCalls
      · simp [reads, call, hRead]
        exact hLeft
      -- a chunk with bytes has paid for the read
      · simp
        omega

------------------------------------------------------------
-- Every run
------------------------------------------------------------

/- A source that is not read is used with discipline. -/
theorem Disciplined.of_unread
    {source : σ} {chunkSize : Nat}
    {rangeHeader : Option String} {es : List Event}
    {calls : List SourceCall}
    (hPermits :
      Permits (ByteSource.length source) chunkSize rangeHeader
        calls)
    (hCalls : sourceCalls es = recordedClosed source calls)
    (hUnread :
      ∀ n answer,
        .read n answer ∉ recordedClosed source calls) :
    Disciplined source chunkSize rangeHeader es where
  calls := ⟨calls, hPermits, hCalls⟩
  read_owed := by
    intro before n answer after hEvents
    have hRead : .read n answer ∈ sourceCalls es := by
      simp [hEvents, Event.IsSourceCall]
    rw [hCalls] at hRead
    exact absurd hRead (hUnread n answer)

/- A source that the loop reads is used with discipline. -/
theorem Disciplined.of_pumps
    {source s' s'' : σ} {chunkSize start stop status : Nat}
    {rangeHeader : Option String} {headers : WireHeaders}
    {edits : List HeaderEdit} {es : List Event}
    {result : Result}
    (hPicks :
      Picks (ByteSource.length source) chunkSize rangeHeader
        start stop)
    (hSkip : ByteSource.skip start source = (false, s'))
    (hLength :
      headers.getAll "Content-Length" =
        [toString (stop - start + 1)])
    (hPumps :
      Pumps chunkSize (stop - start + 1) 0 s' es result s'') :
    Disciplined source chunkSize rangeHeader
      (edits.map .edit ++ [.skip start false] ++
          [.head status headers (.ok ())] ++ es ++
        [.close (ByteSource.close s'').1]) where
  calls := by
    rcases hPumps.exists_sizes with
      ⟨sizes, hCalls, hLeft, hFew⟩
    refine ⟨_, .skipped hPicks hFew, ?_⟩
    simp [Event.IsSourceCall, hCalls, recordedClosed, recorded,
      call, hSkip, hLeft]
  read_owed := by
    intro before n answer after hEvents
    have hFront :
        ∀ e ∈ edits.map Event.edit ++ [.skip start false] ++
            [.head status headers (.ok ())],
          e.IsQuiet :=
      Event.isQuiet_of_mem_append_head
        (Event.isAside_edits_skip edits start false)
    have hClose :
        (Event.close (ByteSource.close s'').1).IsQuiet :=
      (Event.isAside_close _).1
    rcases read_before_quiet hClose hEvents with ⟨_, hInner⟩
    rcases read_behind_quiet hFront hInner with
      ⟨between, rfl, hEs⟩
    rcases hPumps.read_owed hEs with ⟨hOwed, hAsked, _⟩
    have hChunk := hPicks.choose_spec.2.1
    refine ⟨start, stop, status, headers, hPicks, by simp,
      hLength, ?_⟩
    rw [flushed_append_of_quiet hFront]
    omega

/- Every way to stream a source uses it with discipline. -/
theorem Sends.disciplined
    {source source' : σ} {status : Nat}
    {contentType rangeHeader : Option String}
    {settings : StreamSettings} {w : WireHeaders}
    {es : List Event} {result : Result}
    (hSends :
      Sends source status contentType rangeHeader settings w es
        result source') :
    Disciplined source settings.chunkSize rangeHeader
      (es ++ [.close (ByteSource.close source').1]) := by
  cases hSends with
  | bodyless hVerdict hBody hCalls =>
      have hNone :
          ∀ start stop,
            ¬ Picks (ByteSource.length source)
              settings.chunkSize rangeHeader start stop := by
        intro start stop hPicks
        rcases picks_iff.mp hPicks with ⟨asked, hPart⟩
        rw [hVerdict.symm.trans hPart] at hBody
        cases hBody
      refine .of_unread (.untouched hNone) ?_ ?_
      · simp [hCalls.sourceCalls_eq_nil, Event.IsSourceCall,
          recordedClosed, recorded]
      · simp [recordedClosed, recorded]
  | @exhausted _ _ asked _ _ _ _ hVerdict hSkip _ hCalls =>
      have hPicks := picks_iff.mpr ⟨asked, hVerdict⟩
      refine .of_unread (.skipped_only hPicks) ?_ ?_
      · simp [hCalls.sourceCalls_eq_nil, Event.IsSourceCall,
          recordedClosed, recorded, call, hSkip]
      · simp [recordedClosed, recorded]
  | @unsent _ _ asked _ _ _ hVerdict hSkip _ =>
      have hPicks := picks_iff.mpr ⟨asked, hVerdict⟩
      refine .of_unread (.skipped_only hPicks) ?_ ?_
      · simp [Event.IsSourceCall, recordedClosed, recorded,
          call, hSkip]
      · simp [recordedClosed, recorded]
  | @served start stop asked _ _ edits es _ hVerdict hSkip
      hEdits hPumps =>
      have hPicks := picks_iff.mpr ⟨asked, hVerdict⟩
      have hLength :
          (applyEdits w edits).getAll "Content-Length" =
            [toString (stop - start + 1)] := by
        rw [hEdits, applyEdits_append]
        exact getAll_contentLength_partEdits _ _ _ _
      have hServed :
          Disciplined source settings.chunkSize rangeHeader
            (edits.map .edit ++ [.skip start false] ++
                [.head (partStatus asked status)
                  (applyEdits w edits) (.ok ())] ++ es ++
              [.close (ByteSource.close source').1]) :=
        .of_pumps hPicks hSkip hLength hPumps
      simpa using hServed

/-
  Sources that are alike are streamed with the same result and
  the same calls on the connection, however they are closed.
-/
theorem stream_of_alike
    {σ' : Type} [ByteSource σ']
    {R : σ → σ' → Prop} {s : σ} {t : σ'}
    (hAlike : Alike R)
    (hStates : R s t)
    (status : Nat)
    (contentType rangeHeader : Option String)
    (settings : StreamSettings)
    (x : Exchange τ) :
    let run :=
      perform
        (stream s status contentType rangeHeader settings) x
    let run' :=
      perform
        (stream t status contentType rangeHeader settings) x
    run'.1 = run.1 ∧ run'.2.connection = run.2.connection := by
  rcases together_send (Lockstep.refl τ) hAlike hStates status
      contentType rangeHeader settings x x rfl with
    ⟨hResult, _, hLeft⟩
  have hConnection := congrArg Exchange.connection hLeft
  exact ⟨hResult, hConnection⟩

/-
  However the connection and the source behave, a source is used
  with discipline. If its closing is answered differently, the
  delivery goes no other way.
-/
theorem stream_disciplined
    (source : σ)
    (status : Nat)
    (contentType rangeHeader : Option String)
    (settings : StreamSettings)
    (x : Exchange τ) :
    let run :=
      perform
        (stream source status contentType rangeHeader settings)
        x
    Disciplined source settings.chunkSize rangeHeader
        (since x run.2) ∧
      ∀ answer,
        let run' :=
          perform
            (stream (ClosedWith.mk source answer) status
              contentType rangeHeader settings) x
        run'.1 = run.1 ∧
          run'.2.connection = run.2.connection := by
  constructor
  · rcases perform_stream source status contentType rangeHeader
        settings x with
      ⟨result, source', es, x', hRun, hSends, hLeads⟩
    rw [hRun, hLeads.since_eq]
    exact hSends.disciplined
  · intro answer
    exact stream_of_alike (ClosedWith.alike σ) rfl status
      contentType rangeHeader settings x

end Ranged

end Courier
