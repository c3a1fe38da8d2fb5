import Courier.Proofs.Delivery.Pump
import Courier.Proofs.Exchange.Edits

/-
  Streaming a part of a source, as a relation between the
  headers it starts with, the events it causes and how it ends.
  There are four ways: a head without a body, a source that is
  exhausted before its first byte, a head that is not taken, and
  a head that the sending loop follows.

  Key definitions include:
    * `Ranged.streamEdits`
    * `Ranged.refusalEdits`
    * `Ranged.partEdits`
    * `Ranged.Bodyless`
    * `Ranged.bodyless?`
    * `Ranged.Sends`

  Main statements:
    * `Ranged.perform_send`
    * `Ranged.perform_stream`
-/

namespace Courier.Ranged

open Exchange

------------------------------------------------------------
-- Changes of the headers
------------------------------------------------------------

/- The changes that every streamed response makes. -/
def streamEdits
    (contentType : Option String)
    (settings : StreamSettings) : List HeaderEdit :=
  [ .set "Accept-Ranges" "bytes",
    .set "Connection" "keep-alive",
    .set "Keep-Alive" settings.keepAlive ]
  ++ contentType.toList.map (.set "Content-Type")

/- The changes that a refusal makes. -/
def refusalEdits
    (length : Option Nat) : List HeaderEdit :=
  bodyHeaders.map .del
    ++ (length.map unsatisfied).toList.map
      (.set "Content-Range")

/- The changes that announce a part. -/
def partEdits
    (start stop length : Nat) : List HeaderEdit :=
  [ .set "Content-Length" (toString (stop - start + 1)),
    .set "Content-Range" (contentRange start stop length) ]

variable {τ σ : Type} [Connection τ] [ByteSource σ]

omit [Connection τ] in
theorem perform_setStreamHeaders
    (contentType : Option String)
    (settings : StreamSettings)
    (x : Exchange τ) :
    perform (setStreamHeaders contentType settings) x =
      ((), edited (streamEdits contentType settings) x) := by
  cases contentType <;> rfl

omit [Connection τ] in
theorem perform_dropHeaders
    (names : List String)
    (x : Exchange τ) :
    perform (dropHeaders names) x =
      ((), edited (names.map .del) x) := by
  induction names generalizing x with
  | nil => rfl
  | cons name rest ih =>
      rw [dropHeaders,
        perform_bind_of_eq (perform_delHeader name x), ih]
      rfl

------------------------------------------------------------
-- Heads without a body
------------------------------------------------------------

/- The result of a delivery whose head was answered so. -/
def ifSent
    (answer : Sent)
    (result : Result) : Result :=
  match answer with
  | .error e => .error (.send e)
  | .ok () => result

theorem perform_headOnly
    (status : Nat)
    (result : Result)
    (x : Exchange τ) :
    ∃ answer es x',
      perform (headOnly status result) x =
          (ifSent answer result, x') ∧
        FullCalls status x.headers .empty answer es ∧
        Leads x es x' := by
  rcases perform_sendFull status .empty x with
    ⟨answer, es, x', hFull, hCalls, hLeads⟩
  refine ⟨answer, es, x', ?_, hCalls, hLeads⟩
  rw [headOnly, perform_bind_of_eq hFull]
  cases answer <;> rfl

/- A head that follows changes of the headers. -/
theorem perform_headOnly_edited
    (status : Nat)
    (result : Result)
    (edits : List HeaderEdit)
    (x : Exchange τ) :
    ∃ answer es x',
      perform (headOnly status result) (edited edits x) =
          (ifSent answer result, x') ∧
        FullCalls status (applyEdits x.headers edits) .empty
          answer es ∧
        Leads x (edits.map .edit ++ es) x' := by
  have hEdits := leads_edited edits x
  rcases perform_headOnly status result (edited edits x) with
    ⟨answer, es, x', hHead, hCalls, hLeads⟩
  refine ⟨answer, es, x', hHead, ?_, hEdits.trans hLeads⟩
  rwa [hEdits.headers_eq, headersAfter_map_edit] at hCalls

/- A refusal is a head that follows the changes it makes. -/
theorem perform_reject
    (status : Nat)
    (length : Option Nat)
    (x : Exchange τ) :
    perform (reject status length) x =
      perform (headOnly status (.ok (.rejected status)))
        (edited (refusalEdits length) x) := by
  rw [reject,
    perform_bind_of_eq (perform_dropHeaders bodyHeaders x),
    perform_bind_of_eq (perform_setHeader? _ _ _),
    refusalEdits, edited_append]

/-
  A response without a body: the changes of the headers, the
  status of the head, and the result when the head is taken.
-/
structure Bodyless where
  edits : List HeaderEdit
  status : Nat
  result : Result

/- How requests that select no byte are answered. -/
def bodyless?
    (length status : Nat)
    (contentType : Option String)
    (settings : StreamSettings) : Verdict → Option Bodyless
  | .several =>
      some ⟨refusalEdits (some length), 416,
        .ok (.rejected 416)⟩
  | .malformed =>
      some ⟨refusalEdits none, 400, .ok (.rejected 400)⟩
  | .zeroChunk =>
      some ⟨[], 500, .error (.misuse .zeroChunkSize)⟩
  | .noContent =>
      some ⟨streamEdits contentType settings
          ++ [.set "Content-Length" "0"],
        status, .ok (.completed 0)⟩
  | .beyond =>
      some ⟨streamEdits contentType settings
          ++ refusalEdits none,
        400, .ok (.rejected 400)⟩
  | .unsatisfiable =>
      some ⟨streamEdits contentType settings
          ++ refusalEdits (some length),
        416, .ok (.rejected 416)⟩
  | .part _ _ _ => none

/- No byte is counted when no part is sent. -/
theorem eq_zero_of_bodyless
    {length status : Nat}
    {contentType : Option String}
    {settings : StreamSettings}
    {v : Verdict}
    {b : Bodyless}
    (hBody :
      bodyless? length status contentType settings v = some b)
    (answer : Sent)
    (n : Nat)
    (hResult :
      ifSent answer b.result = .ok (.completed n) ∨
        ifSent answer b.result = .ok (.aborted n)) :
    n = 0 := by
  cases answer with
  | error e => simp [ifSent] at hResult
  | ok _ =>
      cases v <;> cases hBody <;> simp [ifSent] at hResult
      exact hResult.symm

------------------------------------------------------------
-- The relation
------------------------------------------------------------

/- The status of a part: a client that asked for it is told. -/
def partStatus
    (asked : Bool)
    (status : Nat) : Nat :=
  if asked then 206 else status

/-
  With these headers to start with, streaming a source causes
  these events, ends with this result and leaves the source so.
-/
inductive Sends
    (source : σ)
    (status : Nat)
    (contentType rangeHeader : Option String)
    (settings : StreamSettings)
    (w : WireHeaders) :
    List Event → Result → σ → Prop where
  | bodyless
      {v : Verdict} {b : Bodyless} {answer : Sent}
      {es : List Event}
      (hVerdict :
        verdict (ByteSource.length source) settings.chunkSize
          rangeHeader = v)
      (hBody :
        bodyless? (ByteSource.length source) status contentType
          settings v = some b)
      (hCalls :
        FullCalls b.status (applyEdits w b.edits) .empty answer
          es) :
      Sends source status contentType rangeHeader settings w
        (b.edits.map .edit ++ es) (ifSent answer b.result)
        source
  | exhausted
      {start stop : Nat} {asked : Bool} {source' : σ}
      {answer : Sent} {edits : List HeaderEdit}
      {es : List Event}
      (hVerdict :
        verdict (ByteSource.length source) settings.chunkSize
          rangeHeader = .part start stop asked)
      (hSkip : ByteSource.skip start source = (true, source'))
      (hEdits :
        edits = streamEdits contentType settings
          ++ partEdits start stop (ByteSource.length source))
      (hCalls :
        FullCalls 400
          (applyEdits (applyEdits w edits) (refusalEdits none))
          .empty answer es) :
      Sends source status contentType rangeHeader settings w
        (edits.map .edit ++ .skip start true ::
          ((refusalEdits none).map .edit ++ es))
        (ifSent answer (.ok (.rejected 400))) source'
  | unsent
      {start stop : Nat} {asked : Bool} {source' : σ}
      {edits : List HeaderEdit} {e : SendError}
      (hVerdict :
        verdict (ByteSource.length source) settings.chunkSize
          rangeHeader = .part start stop asked)
      (hSkip : ByteSource.skip start source = (false, source'))
      (hEdits :
        edits = streamEdits contentType settings
          ++ partEdits start stop (ByteSource.length source)) :
      Sends source status contentType rangeHeader settings w
        (edits.map .edit ++
          [.skip start false,
            .head (partStatus asked status)
              (applyEdits w edits) (.error e)])
        (.error (.send e)) source'
  | served
      {start stop : Nat} {asked : Bool} {source' source'' : σ}
      {edits : List HeaderEdit} {es : List Event}
      {result : Result}
      (hVerdict :
        verdict (ByteSource.length source) settings.chunkSize
          rangeHeader = .part start stop asked)
      (hSkip : ByteSource.skip start source = (false, source'))
      (hEdits :
        edits = streamEdits contentType settings
          ++ partEdits start stop (ByteSource.length source))
      (hPumps :
        Pumps settings.chunkSize (stop - start + 1) 0 source'
          es result source'') :
      Sends source status contentType rangeHeader settings w
        (edits.map .edit ++ .skip start false ::
          .head (partStatus asked status) (applyEdits w edits)
            (.ok ()) :: es)
        result source''

section Runs

variable (source : σ)
variable (status : Nat)
variable (contentType rangeHeader : Option String)
variable (settings : StreamSettings)

/- A refusal after other changes of the headers. -/
omit [ByteSource σ] in
theorem perform_reject_edited
    (refused : Nat)
    (length : Option Nat)
    (edits : List HeaderEdit)
    (x : Exchange τ) :
    perform
        (reject refused length >>= fun r => pure (r, source))
        (edited edits x) =
      perform
        (headOnly refused (.ok (.rejected refused)) >>=
          fun r => pure (r, source))
        (edited (edits ++ refusalEdits length) x) := by
  rw [perform_bind, perform_reject, edited_append]
  rfl

/- A verdict without a part leads to a head alone. -/
theorem perform_send_of_bodyless
    {v : Verdict}
    {b : Bodyless}
    (hVerdict :
      verdict (ByteSource.length source) settings.chunkSize
        rangeHeader = v)
    (hBody :
      bodyless? (ByteSource.length source) status contentType
        settings v = some b)
    (x : Exchange τ) :
    perform
        (send source status contentType rangeHeader settings)
        x =
      perform
        (headOnly b.status b.result >>= fun r =>
          pure (r, source))
        (edited b.edits x) := by
  have hStream :=
    perform_setStreamHeaders contentType settings x
  simp only [send, hVerdict]
  cases v with
  | several =>
      cases hBody
      exact perform_reject_edited source 416 _ [] x
  | malformed =>
      cases hBody
      exact perform_reject_edited source 400 none [] x
  | zeroChunk =>
      cases hBody
      rfl
  | noContent =>
      cases hBody
      rw [perform_bind_of_eq hStream,
        perform_bind_of_eq (perform_setHeader _ _ _),
        edited_append]
  | beyond =>
      cases hBody
      rw [perform_bind_of_eq hStream, perform_reject_edited]
  | unsatisfiable =>
      cases hBody
      rw [perform_bind_of_eq hStream, perform_reject_edited]
  | part start stop asked => cases hBody

/- Every run with a part is one of the relation. -/
theorem perform_send_of_part
    {start stop : Nat}
    {asked : Bool}
    (hVerdict :
      verdict (ByteSource.length source) settings.chunkSize
        rangeHeader = .part start stop asked)
    (x : Exchange τ) :
    ∃ result source' es x',
      perform
          (send source status contentType rangeHeader settings)
          x = ((result, source'), x') ∧
        Sends source status contentType rangeHeader settings
          x.headers es result source' ∧
        Leads x es x' := by
  simp only [send, hVerdict]
  rw [perform_bind_of_eq
      (perform_setStreamHeaders contentType settings x),
    sendPart, perform_bind_of_eq (perform_setHeader _ _ _),
    perform_bind_of_eq (perform_setHeader _ _ _),
    ← edited_append, ← edited_append]
  generalize hEdits :
    streamEdits contentType settings
      ++ ([.set "Content-Length" (toString (stop - start + 1))]
        ++ [.set "Content-Range"
          (contentRange start stop (ByteSource.length source))])
      = edits
  have hLeads₁ := leads_edited edits x
  rcases perform_skipIn start source (edited edits x) with
    ⟨x₂, hSkipIn, hLeads₂⟩
  rw [perform_bind_of_eq hSkipIn]
  cases hSkip : ByteSource.skip start source with
  | mk exhausted source' =>
    rw [hSkip] at hLeads₂
    have hLeads := hLeads₁.trans hLeads₂
    have hHeaders : x₂.headers = applyEdits x.headers edits :=
      by simp [hLeads.headers_eq, headersWith]
    cases exhausted with
    | true =>
        rcases perform_headOnly_edited 400
            (.ok (.rejected 400)) (refusalEdits none) x₂ with
          ⟨answer, es, x₃, hHead, hCalls, hLeads₃⟩
        rw [hHeaders] at hCalls
        refine ⟨_, source', _, x₃, ?_,
          .exhausted hVerdict hSkip hEdits.symm hCalls, by
            simpa using hLeads.trans hLeads₃⟩
        simp only [if_true]
        rw [perform_bind_of_eq
          ((perform_reject 400 none x₂).trans hHead)]
        rfl
    | false =>
        rcases perform_sendHead (partStatus asked status) x₂
          with ⟨answer, x₃, hHead, hLeads₃⟩
        rw [hHeaders] at hLeads₃
        simp only [Bool.false_eq_true, if_false]
        rw [partStatus] at hHead
        rw [perform_bind_of_eq hHead]
        cases answer with
        | error e =>
            exact ⟨_, source', _, x₃, rfl,
              .unsent hVerdict hSkip hEdits.symm, by
                simpa using hLeads.trans hLeads₃⟩
        | ok _ =>
            rcases perform_pump settings.chunkSize
                (stop - start + 1) 0 source' x₃ with
              ⟨result, source'', es, x₄, hPump, hPumps,
                hLeads₄⟩
            exact ⟨result, source'', _, x₄, hPump,
              .served hVerdict hSkip hEdits.symm hPumps, by
                simpa using
                  (hLeads.trans hLeads₃).trans hLeads₄⟩

/- Every run is one of the relation. -/
theorem perform_send
    (x : Exchange τ) :
    ∃ result source' es x',
      perform
          (send source status contentType rangeHeader settings)
          x = ((result, source'), x') ∧
        Sends source status contentType rangeHeader settings
          x.headers es result source' ∧
        Leads x es x' := by
  cases hBody :
      bodyless? (ByteSource.length source) status contentType
        settings
        (verdict (ByteSource.length source) settings.chunkSize
          rangeHeader) with
  | some b =>
      rcases perform_headOnly_edited b.status b.result b.edits
          x with ⟨answer, es, x', hHead, hCalls, hLeads⟩
      refine ⟨_, _, _, x', ?_, .bodyless rfl hBody hCalls,
        hLeads⟩
      rw [perform_send_of_bodyless source status contentType
        rangeHeader settings rfl hBody,
        perform_bind_of_eq hHead]
      rfl
  | none =>
      cases hVerdict :
          verdict (ByteSource.length source)
            settings.chunkSize rangeHeader with
      | part start stop asked =>
          exact perform_send_of_part source status contentType
            rangeHeader settings hVerdict x
      | _ => simp [hVerdict, bodyless?] at hBody

/- A streamed source is closed after everything else. -/
theorem perform_stream
    (x : Exchange τ) :
    ∃ result source' es x',
      perform
          (stream source status contentType rangeHeader
            settings)
          x = (result, x') ∧
        Sends source status contentType rangeHeader settings
          x.headers es result source' ∧
        Leads x
          (es ++ [.close (ByteSource.close source').1]) x' := by
  rcases perform_send source status contentType rangeHeader
      settings x with
    ⟨result, source', es, x₁, hSend, hSends, hLeads⟩
  rcases perform_closeSource source' x₁ with
    ⟨x₂, hClose, hLeads'⟩
  refine ⟨result, source', es, x₂, ?_, hSends,
    hLeads.trans hLeads'⟩
  rw [stream, perform_bind_of_eq hSend,
    perform_bind_of_eq hClose]
  rfl

end Runs

end Courier.Ranged
