import Courier.Proofs.Delivery.CacheHeaders

/-
  Headers that nobody but the handler writes. Whatever becomes
  of a response, a head that is sent carries them as the handler
  left them, apart from the values that no message can carry.

  Key definitions include:
    * `Delivery.writtenNames`

  Main statements:
    * `Exchange.getAll_applyEdits_of_not_isToken`
    * `Delivery.getAll_head`
    * `Delivery.deliver_keeps_headers`
-/

namespace Courier

open Exchange Trace

------------------------------------------------------------
-- Names that no message can carry
------------------------------------------------------------

namespace Exchange

/- No change puts anything under a name that is no token. -/
theorem getAll_applyEdit_of_not_isToken
    {name : String}
    (hToken : ¬ Header.isToken name)
    {w : WireHeaders}
    (hNone : w.getAll name = [])
    (change : HeaderEdit) :
    (applyEdit w change).getAll name = [] := by
  have hRefused :
      ∀ other value,
        ¬ (Header.isSendable other value ∧
          name.toLower = other.toLower) := by
    rintro other value ⟨hSend, hSame⟩
    apply hToken
    rw [← Header.isToken_toLower, hSame, Header.isToken_toLower]
    simp only [Header.isSendable, Bool.and_eq_true] at hSend
    exact hSend.1
  cases change with
  | set other value =>
      exact (w.getAll_set other value name).trans
        ((if_neg (hRefused other value)).trans hNone)
  | add other value =>
      exact (w.getAll_add other value name).trans
        ((if_neg (hRefused other value)).trans hNone)
  | del other =>
      refine (w.getAll_del other name).trans ?_
      split
      · rfl
      · exact hNone

theorem getAll_applyEdits_of_not_isToken
    {name : String}
    (hToken : ¬ Header.isToken name)
    (edits : List HeaderEdit)
    {w : WireHeaders}
    (hNone : w.getAll name = []) :
    (applyEdits w edits).getAll name = [] := by
  induction edits generalizing w with
  | nil => exact hNone
  | cons change rest ih =>
      exact ih (getAll_applyEdit_of_not_isToken hToken hNone
        change)

end Exchange

------------------------------------------------------------
-- Names that the handler alone writes
------------------------------------------------------------

namespace Delivery

open Assembly

/- The names that delivering a response may write. -/
def writtenNames : List String :=
  [ "Accept-Ranges", "Cache-Control", "Connection",
    "Content-Encoding", "Content-Length", "Content-Range",
    "Content-Type", "ETag", "Keep-Alive", "Set-Cookie" ]

/- A name that delivering leaves alone is none of these. -/
theorem toLower_not_mem_of_subset
    {names : List String}
    (hNames : names ⊆ writtenNames)
    {name : String}
    (hName : name.toLower ∉ writtenNames.map String.toLower) :
    name.toLower ∉ names.map String.toLower :=
  fun hMem => hName (List.map_subset _ hNames hMem)

/- What a head carries under a name that is left alone. -/
theorem getAll_head
    {σ : Type}
    {r : Response σ}
    {d : Delivery}
    {q : RequestHead}
    {edits : List HeaderEdit}
    (hEdits : EditsOnly Ranged.rangedNames edits)
    {name : String}
    (hName : name.toLower ∉ writtenNames.map String.toLower) :
    (applyEdits
        (applyEdits .empty
          (carryEdits d.codec (d.settled r q) q))
        edits).getAll name =
      if Header.isToken name then
        (r.headers.getAll name).filter Header.isFieldText
      else
        [] := by
  by_cases hToken : Header.isToken name
  · have hSent :
        name.toLower ∉ sendingNames.map String.toLower :=
      toLower_not_mem_of_subset
        (by simp [sendingNames, writtenNames]) hName
    have hPolicy :
        name.toLower ∉ policyNames.map String.toLower :=
      toLower_not_mem_of_subset
        (by simp [policyNames, writtenNames]) hName
    have hRanged :
        name.toLower ∉ Ranged.rangedNames.map String.toLower :=
      toLower_not_mem_of_subset
        (by simp [Ranged.rangedNames, Ranged.streamNames,
          Ranged.bodyHeaders, writtenNames]) hName
    rw [if_pos hToken, hEdits.getAll_applyEdits hRanged,
      getAll_sent (by simpa using hToken) hSent,
      d.getAll_settled r q hPolicy]
  · rw [if_neg hToken]
    exact getAll_applyEdits_of_not_isToken hToken _
      (getAll_applyEdits_of_not_isToken hToken _ rfl)

variable {τ σ : Type} [Connection τ] [Connection.NeverFails τ]
variable [ByteSource σ]

/-
  Of what the handler wrote under a name of its own, the client
  receives every value that a message can carry, in order, and
  nothing else is sent under that name. One head is sent when
  the cookies can be dated, and none otherwise.
-/
theorem deliver_keeps_headers
    {r : Response σ}
    (hHandler : r.handler = none)
    (d : Delivery)
    (q : RequestHead)
    (c : τ)
    {name : String}
    (hName : name.toLower ∉ writtenNames.map String.toLower) :
    let seen :=
      signals
        (since (.start c)
          (perform (d.deliver r q) (.start c)).2)
    (Dated r.cookies →
      ∃ status headers rest,
        seen = .head status headers :: rest ∧
          ∀ s ∈ rest, ¬ s.IsHead) ∧
      ∀ status headers,
        .head status headers ∈ seen →
          headers.getAll name =
            if Header.isToken name then
              (r.headers.getAll name).filter Header.isFieldText
            else
              [] := by
  intro seen
  by_cases hDated : Dated r.cookies
  · rcases exists_head_of_dated hHandler hDated d q c with
      ⟨sent, edits, rest, hSignals, hHeads, hEdits, _⟩
    refine ⟨fun _ => ⟨sent, _, rest, hSignals, hHeads⟩, ?_⟩
    intro status headers hMem
    rw [show seen = _ from hSignals] at hMem
    rcases List.mem_cons.mp hMem with hFirst | hLater
    · cases hFirst
      exact getAll_head hEdits hName
    · exact absurd trivial (hHeads _ hLater)
  · have hSilent : seen = [] :=
      signals_eq_nil_of_undated hHandler hDated d q c
    refine ⟨fun h => absurd h hDated, ?_⟩
    intro status headers hMem
    simp [hSilent] at hMem

/- A streamed text and a header with three values, one bad. -/
def marked : Response MemorySource where
  status := 200
  headers :=
    HeaderList.empty.add "X-Trace" "a"
      |>.add "X-Trace" "b\n"
      |>.add "X-Trace" "c"
  payload := .source (.ofBytes "hello".toUTF8)

/- A header outlives the refusal of a range. -/
theorem deliver_keeps_headers_of_refused :
    let d : Delivery := { codec := .standard }
    let q : RequestHead :=
      .ofParts "GET" "/" [("Range", "bytes=9-".toUTF8)]
    let x : Exchange OpenConnection := .start .fresh
    ∃ status headers,
      .head status headers ∈
          signals (since x (perform (d.deliver marked q) x).2) ∧
        headers.getAll "X-Trace" = ["a", "c"] := by
  intro d q x
  have hToken : Header.isToken "X-Trace" := by decide
  have hValues :
      marked.headers.getAll "X-Trace" = ["a", "b\n", "c"] := by
    simp [marked, HeaderList.getAll_add]
  rcases @deliver_keeps_headers OpenConnection MemorySource _ _ _
      marked rfl d q .fresh "X-Trace" (by decide +kernel) with
    ⟨hSent, hKept⟩
  rcases hSent (by simp [Dated, marked]) with
    ⟨status, headers, rest, hSeen, _⟩
  have hMem :
      .head status headers ∈
        signals (since x (perform (d.deliver marked q) x).2) := by
    rw [hSeen]
    exact List.mem_cons_self
  refine ⟨status, headers, hMem, ?_⟩
  rw [hKept status headers hMem, if_pos hToken, hValues]
  decide

end Delivery

end Courier
