import Courier.Proofs.Cache.Digest
import Courier.Proofs.Delivery.NotModified

/-
  A client that holds an old body is not told to keep it. Heads
  have the status of the response, that of a part or that of a
  refusal, whatever the connection answers; so a 304 comes from
  the tag alone, and the tag changes with any byte of the body.

  Key definitions include:
    * `Event.headStatus?`
    * `Trace.HeadsIn`
    * `Delivery.TagsBody`

  Main statements:
    * `Assembly.Pays.headsIn`
    * `Delivery.deliver_headsIn`
    * `Delivery.deliver_edited`
-/

namespace Courier

open Exchange Trace

------------------------------------------------------------
-- Statuses
------------------------------------------------------------

/- The status that an attempt to send a head is made with. -/
def Event.headStatus? : Event → Option Nat
  | .head status _ _ | .full status _ _ _ => some status
  | _ => none

namespace Trace

/- Every attempt to send a head has one of these statuses. -/
def HeadsIn
    (statuses : List Nat)
    (es : List Event) : Prop :=
  ∀ e ∈ es, ∀ status ∈ e.headStatus?, status ∈ statuses

namespace HeadsIn

variable {statuses : List Nat} {es fs : List Event}

@[simp] theorem nil :
    HeadsIn statuses [] := by
  simp [HeadsIn]

@[simp] theorem append :
    HeadsIn statuses (es ++ fs) ↔
      HeadsIn statuses es ∧ HeadsIn statuses fs :=
  List.forall_mem_append

@[simp] theorem cons
    {e : Event} :
    HeadsIn statuses (e :: es) ↔
      (∀ status ∈ e.headStatus?, status ∈ statuses) ∧
        HeadsIn statuses es :=
  List.forall_mem_cons

/- Changing the headers sends no head. -/
@[simp] theorem map_edit
    (edits : List HeaderEdit) :
    HeadsIn statuses (edits.map .edit) := by
  intro e he
  rcases List.mem_map.mp he with ⟨change, _, rfl⟩
  simp [Event.headStatus?]

/- Sending a body sends no head. -/
theorem of_isBody
    (hBody : ∀ e ∈ es, e.IsBody) :
    HeadsIn statuses es := by
  intro e he
  have hEvent := hBody e he
  cases e <;> simp_all [Event.IsBody, Event.headStatus?]

/- A complete response has the status it is sent with. -/
theorem of_fullCalls
    {status : Nat}
    {w : WireHeaders}
    {body : ByteArray}
    {answer : Sent}
    (hCalls : FullCalls status w body answer es)
    (hStatus : status ∈ statuses) :
    HeadsIn statuses es := by
  cases hCalls with
  | whole => simpa [Event.headStatus?] using hStatus
  | unsent => simpa [Event.headStatus?] using hStatus
  | bare => simpa [Event.headStatus?] using hStatus
  | apart _ hChunk =>
      rw [cons]
      exact
        ⟨by simpa [Event.headStatus?] using hStatus,
          of_isBody hChunk.isBody⟩

end HeadsIn

end Trace

/- The statuses that a response of some status is sent with. -/
def Ranged.sentStatuses
    (status : Nat) : List Nat :=
  status :: 206 :: refusalStatuses

variable {τ σ : Type} [Connection τ] [ByteSource σ]

/- Streaming a source sends no other status. -/
theorem Ranged.Sends.headsIn
    {source source' : σ}
    {status : Nat}
    {contentType rangeHeader : Option String}
    {settings : StreamSettings}
    {w : WireHeaders}
    {es : List Event}
    {result : Ranged.Result}
    (hSends :
      Ranged.Sends source status contentType rangeHeader
        settings w es result source') :
    HeadsIn (sentStatuses status) es := by
  have hPart (asked : Bool) :
      partStatus asked status ∈ sentStatuses status := by
    cases asked <;> simp [partStatus, sentStatuses]
  cases hSends with
  | @bodyless v b answer es hVerdict hBody hCalls =>
      rw [← hVerdict] at hBody
      have hStatus : b.status ∈ sentStatuses status := by
        rcases status_of_bodyless hBody with
          ⟨_, hRefused⟩ | ⟨_, hKept⟩
        · simp [sentStatuses, hRefused]
        · simp [sentStatuses, hKept]
      exact HeadsIn.append.mpr
        ⟨.map_edit _, .of_fullCalls hCalls hStatus⟩
  | exhausted _ _ _ hCalls =>
      have hStatus : 400 ∈ sentStatuses status := by
        simp [sentStatuses, refusalStatuses]
      simp only [HeadsIn.append, HeadsIn.cons,
        HeadsIn.map_edit, true_and]
      exact
        ⟨by simp [Event.headStatus?],
          .of_fullCalls hCalls hStatus⟩
  | @unsent _ _ asked =>
      simp [Event.headStatus?, hPart asked]
  | @served _ _ asked _ _ _ _ _ _ _ _ hPumps =>
      have hBody : HeadsIn (sentStatuses status) _ :=
        .of_isBody hPumps.isBody
      simp [Event.headStatus?, hPart asked, hBody]

/- Sending a payload sends no other status. -/
theorem Assembly.Pays.headsIn
    {r : Response σ}
    {q : RequestHead}
    {w : WireHeaders}
    {es : List Event}
    {result : Assembly.Result}
    (hPays : Assembly.Pays r q w es result) :
    HeadsIn (Ranged.sentStatuses r.status) es := by
  have hOwn : r.status ∈ Ranged.sentStatuses r.status :=
    List.mem_cons_self
  cases hPays with
  | bare _ hCalls => exact .of_fullCalls hCalls hOwn
  | buffered _ _ _ hCalls =>
      exact HeadsIn.cons.mpr
        ⟨by simp [Event.headStatus?],
          .of_fullCalls hCalls hOwn⟩
  | promoted _ _ _ hSends hLast =>
      simp [hSends.headsIn, hLast, Event.headStatus?]
  | sourced _ hSends hLast =>
      simp [hSends.headsIn, hLast, Event.headStatus?]
  | pushed _ _ hFollows =>
      have hBody : HeadsIn (Ranged.sentStatuses r.status) _ :=
        .of_isBody hFollows.isBody
      simp [Event.headStatus?, hOwn, hBody]

namespace Delivery

open Assembly

variable {r : Response σ} {d : Delivery} {q : RequestHead}

/-
  A response that the client does not have is not reported as
  unmodified, and its head has its own status, that of a part or
  that of a refusal.
-/
theorem deliver_headsIn
    (hHandler : r.handler = none)
    (hFresh : d.answersFresh r q = false)
    (x : Exchange τ) :
    let run := perform (d.deliver r q) x
    run.1 ≠ .ok .notModified ∧
      HeadsIn (Ranged.sentStatuses r.status)
        (since x run.2) := by
  intro run
  have hRun : run = _ := perform_deliver hHandler d q x
  rw [hFresh] at hRun
  by_cases hDated : Dated r.cookies
  · rcases perform_deliver_of_dated hHandler hDated d q x with
      ⟨result, es, x', hPerformed, hPays, hLeads⟩
    have hStatus :
        (encoded d.codec (d.settled r q) q).status =
          r.status := by
      rw [status_encoded, (d.payload_settled r q hFresh).2]
    have hHeads := hPays.headsIn
    rw [hStatus] at hHeads
    have hEnd : run = (reported _ result, x') := hPerformed
    rw [hEnd, hFresh, hLeads.since_eq]
    exact
      ⟨hPays.ne_notModified,
        HeadsIn.append.mpr ⟨.map_edit _, hHeads⟩⟩
  · rw [← d.cookies_settled r q] at hDated
    have hSend :=
      perform_send_of_undated (d.handler_settled r q hHandler)
        hDated d.codec q x
    rw [hRun, hSend, (leads_edited _ x).since_eq]
    exact ⟨by simp [reported], .map_edit _⟩

/-
  A governed response with a buffered body, whose tag is left to
  the digest and which may be answered as not modified.
-/
structure TagsBody
    (d : Delivery)
    (r : Response σ)
    (q : RequestHead)
    (policy : CachePolicy)
    (body : ByteArray) : Prop where
  handler_eq : r.handler = none
  governs : Governs d r q policy
  enabled : policy.disableAutoResponse = false
  payload_eq : r.payload = .body body
  not_explicit : r.tag = none
  not_preset : r.headers.has "ETag" = false

/- Such a response has the digest as its tag, or none at all. -/
omit [ByteSource σ] in
theorem TagsBody.eq_ofBody
    {policy : CachePolicy}
    {body : ByteArray}
    {tag : String}
    (hTags : TagsBody d r q policy body)
    (hTag : Tag.of? policy r = some tag) :
    tag = Tag.ofBody body := by
  have hOwn : r.headers.get? "ETag" = none := by
    have hNone :=
      (HeaderList.has_eq_false_iff _ _).mp hTags.not_preset
    rw [HeaderList.get?, hNone]
    rfl
  unfold Tag.of? Tag.taggedBody? at hTag
  rw [hTags.payload_eq, hTags.not_explicit, hOwn] at hTag
  simp only at hTag
  split at hTag
  · next bytes hBody =>
      rw [Option.ite_none_left_eq_some] at hBody
      cases hBody.2
      cases hTag
      rfl
  · cases hTag

/-
  An edit of one byte changes the digest and the tag of a body.
  A client that names the tag of the old body is not told that
  nothing has changed, however the connection behaves.
-/
theorem deliver_edited
    {old edited : ByteArray}
    (hEdit : Tag.DifferOnce old edited) :
    Tag.digest old ≠ Tag.digest edited ∧
      Tag.ofBody old ≠ Tag.ofBody edited ∧
      ∀ (d : Delivery) (r : Response σ) (q : RequestHead)
        (policy : CachePolicy) (x : Exchange τ),
        TagsBody d r q policy edited →
          q.header? "If-None-Match" =
              some (Tag.ofBody old) →
            let run := perform (d.deliver r q) x
            run.1 ≠ .ok .notModified ∧
              ∀ e ∈ since x run.2, e.headStatus? ≠ some 304 := by
  have hTag := Tag.ofBody_ne_of_differOnce hEdit
  refine ⟨Tag.digest_ne_of_differOnce hEdit, hTag, ?_⟩
  intro d r q policy x hTags hNamed run
  have hFresh : d.answersFresh r q = false := by
    rw [Bool.eq_false_iff]
    intro hAnswers
    rcases answersFresh_iff.mp hAnswers with
      ⟨other, tag, hMatches⟩
    have hSame : other = policy :=
      Option.some.inj
        (hMatches.governs.policy_eq.symm.trans
          hTags.governs.policy_eq)
    subst hSame
    have hOwn := hTags.eq_ofBody hMatches.tag_eq
    have hOld : tag = Tag.ofBody old :=
      Option.some.inj (hMatches.named.symm.trans hNamed)
    exact hTag (hOld.symm.trans hOwn)
  rcases deliver_headsIn hTags.handler_eq hFresh x with
    ⟨hResult, hHeads⟩
  refine ⟨hResult, ?_⟩
  intro e he hStatus
  have hSent := hHeads e he 304 hStatus
  have hSuccess := hTags.governs.success
  simp [Ranged.sentStatuses, Ranged.refusalStatuses] at hSent
  omega

/- A client has the old greeting, and its first letter changed. -/
theorem deliver_edited_of_greeting :
    let d : Delivery := hourly
    let r : String → Response MemorySource :=
      fun text => (Response.ofStatus 200).text text "text/plain"
    let q : RequestHead :=
      .ofParts "GET" "/"
        [("If-None-Match", "a430d84680aabd0b".toUTF8)]
    let x : Exchange OpenConnection := .start .fresh
    let run := fun text => perform (d.deliver (r text) q) x
    (run "hello").1 = .ok .notModified ∧
      (run "jello").1 ≠ .ok .notModified ∧
      ∀ e ∈ since x (run "jello").2,
        e.headStatus? ≠ some 304 := by
  intro d r q x run
  have hEdit :
      Tag.DifferOnce "hello".toUTF8 "jello".toUTF8 :=
    { size_eq := by decide
      unique := by
        have hRest :
            ∀ i : Fin 5,
              "hello".toUTF8[i.val]? ≠ "jello".toUTF8[i.val]? →
                i.val = 0 := by
          decide
        refine ⟨0, by decide, fun i hi => ?_⟩
        by_cases hBound : i < 5
        · exact hRest ⟨i, hBound⟩ hi
        · exact absurd
            ((getElem?_neg "hello".toUTF8 i hBound).trans
              (getElem?_neg "jello".toUTF8 i hBound).symm)
            hi }
  have hNamed :
      q.header? "If-None-Match" =
        some (Tag.ofBody "hello".toUTF8) := by
    decide +kernel
  have hTags :
      TagsBody d (r "jello") q { maxAge := { seconds := 3600 } }
        "jello".toUTF8 :=
    { handler_eq := rfl
      governs :=
        { success := by decide
          get := by decide
          unsaid := by decide +kernel
          policy_eq := rfl }
      enabled := rfl
      payload_eq := rfl
      not_explicit := rfl
      not_preset := by decide +kernel }
  have hFresh : d.answersFresh (r "hello") q = true := by
    decide +kernel
  exact
    ⟨(deliver_of_fresh rfl (by decide) hFresh
        OpenConnection.fresh).1,
      (deliver_edited hEdit).2.2 d (r "jello") q _ x hTags
        hNamed⟩

end Delivery

end Courier
