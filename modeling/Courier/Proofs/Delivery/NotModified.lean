import Courier.Proofs.Delivery.CacheHeaders
import Courier.Proofs.Delivery.Messages

/-
  When a client is told to use what it has. Which responses a
  policy governs, and the tag of a response, are stated apart
  from how a response is settled; a client is answered with a
  head alone exactly when it names the tag of a governed
  response.

  Key definitions include:
    * `Tag.of?`
    * `Tag.valuesOf`
    * `Delivery.Governs`
    * `Delivery.Matches`
    * `Delivery.CarriesPolicy`
    * `Delivery.SendsNotModified`

  Main statements:
    * `Delivery.policy?_eq_some_iff`
    * `Delivery.getAll_tag_governed`
    * `Delivery.answersFresh_iff`
    * `Delivery.carriesPolicy_carried`
    * `Delivery.deliver_notModified`
-/

namespace Courier

open Exchange Trace

variable {σ : Type}

------------------------------------------------------------
-- Tags
------------------------------------------------------------

namespace Tag

/- The buffered body that a policy makes a tag for. -/
def taggedBody?
    (policy : CachePolicy)
    (r : Response σ) : Option ByteArray :=
  match r.payload with
  | .body bytes =>
      if bytes.isEmpty || policy.disableTagGeneration then none
      else some bytes
  | .empty | .source _ | .producer _ => none

/-
  The tag of a response under a policy: that of a buffered body
  is the explicit one, else the last one in its headers, else
  the digest of its bytes. Any other response has the last tag
  in its headers.
-/
def of?
    (policy : CachePolicy)
    (r : Response σ) : Option String :=
  let own := r.headers.get? "ETag"
  match taggedBody? policy r with
  | some bytes => some ((r.tag.or own).getD (ofBody bytes))
  | none => own

/- All values that a response under a policy has as tags. -/
def valuesOf
    (policy : CachePolicy)
    (r : Response σ) : List String :=
  let own := r.headers.getAll "ETag"
  match taggedBody? policy r, r.tag with
  | none, _ => own
  | some _, some tag => [tag]
  | some bytes, none =>
      if own.isEmpty then [ofBody bytes] else own

/- The tag of a response is the last of its values. -/
theorem getLast?_valuesOf
    (policy : CachePolicy)
    (r : Response σ) :
    (valuesOf policy r).getLast? = of? policy r := by
  unfold valuesOf of? HeaderList.get?
  cases taggedBody? policy r with
  | none => rfl
  | some bytes =>
      cases r.tag with
      | some tag => rfl
      | none =>
          cases hOwn : r.headers.getAll "ETag" with
          | nil => rfl
          | cons first rest =>
              simp [List.getLast?_cons]

/- A value is the tag, or the handler wrote it. -/
theorem eq_or_mem_of_mem_valuesOf
    {policy : CachePolicy}
    {r : Response σ}
    {tag value : String}
    (hTag : of? policy r = some tag)
    (hValue : value ∈ valuesOf policy r) :
    value = tag ∨ value ∈ r.headers.getAll "ETag" := by
  have hLast := getLast?_valuesOf policy r
  rw [hTag] at hLast
  unfold valuesOf at hValue hLast
  cases hBody : taggedBody? policy r with
  | none =>
      rw [hBody] at hValue
      exact Or.inr hValue
  | some bytes =>
      rw [hBody] at hValue hLast
      cases hExplicit : r.tag with
      | some explicit =>
          rw [hExplicit] at hValue hLast
          have hSame := List.mem_singleton.mp hValue
          rw [List.getLast?_singleton, Option.some.injEq]
            at hLast
          exact Or.inl (hSame.trans hLast)
      | none =>
          rw [hExplicit] at hValue hLast
          simp only at hValue hLast
          split at hValue
          · next hOwn =>
              rw [if_pos hOwn, List.getLast?_singleton,
                Option.some.injEq] at hLast
              have hSame := List.mem_singleton.mp hValue
              exact Or.inl (hSame.trans hLast)
          · exact Or.inr hValue

/- The tags of a buffered body that a tag may be made for. -/
theorem getAll_tag_apply
    (headers : HeaderList)
    {body : ByteArray}
    (hBody : body.isEmpty = false)
    (explicit : Option String) :
    (apply headers body explicit).getAll "ETag" =
      match explicit with
      | some tag => [tag]
      | none =>
          if (headers.getAll "ETag").isEmpty then [ofBody body]
          else headers.getAll "ETag" := by
  have hSet :
      ∀ tag, (headers.set "ETag" tag).getAll "ETag" = [tag] :=
    fun tag => (headers.getAll_set _ _ _).trans (if_pos rfl)
  unfold apply
  rw [hBody]
  cases explicit with
  | some tag => exact hSet tag
  | none =>
      simp only [Bool.false_eq_true, if_false, HeaderList.has]
      by_cases hOwn : (headers.getAll "ETag").isEmpty
      · simpa [hOwn] using hSet (ofBody body)
      · simp [hOwn]

/- A client has a response when it names its tag. -/
theorem isNotModified_iff
    (headers : HeaderList)
    (named : Option String) :
    isNotModified headers named = true ↔
      ∃ tag,
        headers.get? "ETag" = some tag ∧ tag ≠ "" ∧
          named = some tag := by
  unfold isNotModified
  cases headers.get? "ETag" with
  | none => simp
  | some tag =>
      cases named with
      | none => simp
      | some text =>
          constructor
          · intro hSame
            rw [Bool.and_eq_true, beq_iff_eq] at hSame
            have hTag : tag ≠ "" := by
              simpa using hSame.1
            exact ⟨tag, rfl, hTag, by rw [hSame.2]⟩
          · rintro ⟨other, hOther, hTag, hText⟩
            cases hOther
            cases hText
            simpa using hTag

end Tag

/- What a client sent visibly can be sent back. -/
theorem RequestHead.isFieldText_of_visible
    {value : ByteArray}
    {text : String}
    (hText : visible? value = some text) :
    Header.isFieldText text := by
  have hBytes :
      ∀ n : Fin 256,
        n.val = 9 ∨ (32 ≤ n.val ∧ n.val ≤ 126) →
          Header.isFieldChar (Char.ofNat n.val) := by
    decide +kernel
  unfold visible? at hText
  simp only [Option.ite_none_right_eq_some, List.all_eq_true,
    Option.some.injEq] at hText
  rcases hText with ⟨hAll, rfl⟩
  rw [Header.isFieldText, String.toList_ofList,
    List.all_eq_true]
  intro c hc
  rcases List.mem_map.mp hc with ⟨b, hb, rfl⟩
  apply hBytes ⟨b.toNat, b.toNat_lt⟩
  have hVisible := hAll b hb
  simp only [isVisible, Bool.or_eq_true, Bool.and_eq_true,
    decide_eq_true_eq] at hVisible
  rcases hVisible with rfl | hPrintable
  · exact Or.inl rfl
  · exact Or.inr hPrintable

------------------------------------------------------------
-- Governed responses
------------------------------------------------------------

namespace Delivery

open Assembly

variable {d : Delivery} {r : Response σ} {q : RequestHead}
variable {policy : CachePolicy} {tag : String}

/-
  A policy governs a response: that of the response itself or,
  when it has none, that of the endpoint, for a successful
  answer to a `GET` whose handler did not say how to cache it.
-/
structure Governs
    (d : Delivery)
    (r : Response σ)
    (q : RequestHead)
    (policy : CachePolicy) : Prop where
  success : r.status < 300
  get : q.method = "GET"
  unsaid : r.headers.has "Cache-Control" = false
  policy_eq : r.cachePolicy.or d.cachePolicy = some policy

/- The policy that is found is the one that governs. -/
theorem policy?_eq_some_iff :
    d.policy? r q = some policy ↔ Governs d r q policy := by
  unfold policy? CachePolicy.pick RequestHead.isGet
  constructor
  · intro hPolicy
    split at hPolicy
    · next hBoth =>
        simp only [Bool.and_eq_true, decide_eq_true_eq] at hBoth
        split at hPolicy
        · cases hPolicy
        · next hHas =>
            rw [Bool.not_eq_true] at hHas
            exact ⟨hBoth.1, hBoth.2, hHas, hPolicy⟩
    · cases hPolicy
  · intro hGoverns
    simp [hGoverns.success, hGoverns.get, hGoverns.unsaid,
      hGoverns.policy_eq]

/- A governed response has the tags that its policy makes. -/
theorem getAll_tag_governed
    (d : Delivery)
    (r : Response σ)
    (policy : CachePolicy) :
    (d.governed r policy).headers.getAll "ETag" =
      Tag.valuesOf policy r := by
  have hOther :
      (r.headers.set "Cache-Control" policy.render).getAll
          "ETag" =
        r.headers.getAll "ETag" := by
    rw [HeaderList.getAll_set, if_neg (by decide +kernel)]
  unfold governed applyPolicy Tag.valuesOf Tag.taggedBody?
  simp only [fillSettings, Response.setHeader]
  cases r.payload with
  | empty => exact hOther
  | source source => exact hOther
  | producer producer => exact hOther
  | body bytes =>
      cases hDisabled : policy.disableTagGeneration with
      | true => simpa using hOther
      | false =>
          cases hBytes : bytes.isEmpty with
          | true => simpa [Tag.apply, hBytes] using hOther
          | false =>
              simp only [hBytes, Bool.false_eq_true, if_false,
                Bool.or_false]
              rw [Tag.getAll_tag_apply _ hBytes, hOther]
              cases r.tag <;> rfl

/- The tag that is compared with what the client names. -/
theorem get?_tag_governed
    (d : Delivery)
    (r : Response σ)
    (policy : CachePolicy) :
    (d.governed r policy).headers.get? "ETag" =
      Tag.of? policy r := by
  rw [HeaderList.get?, getAll_tag_governed,
    Tag.getLast?_valuesOf]

/-
  A client names the tag of a governed response, which may be
  answered so.
-/
structure Matches
    (d : Delivery)
    (r : Response σ)
    (q : RequestHead)
    (policy : CachePolicy)
    (tag : String) : Prop where
  governs : Governs d r q policy
  enabled : policy.disableAutoResponse = false
  tag_eq : Tag.of? policy r = some tag
  tag_ne : tag ≠ ""
  named : q.header? "If-None-Match" = some tag

/- The client is answered so when it names the tag. -/
theorem answersFresh_iff :
    d.answersFresh r q = true ↔
      ∃ policy tag, Matches d r q policy tag := by
  unfold answersFresh
  rw [Option.any_eq_true]
  constructor
  · rintro ⟨policy, hPolicy, hFresh⟩
    rw [isFresh, Bool.and_eq_true, Bool.not_eq_true',
      Tag.isNotModified_iff, get?_tag_governed] at hFresh
    rcases hFresh with ⟨hEnabled, tag, hTag, hNe, hNamed⟩
    exact ⟨policy, tag, policy?_eq_some_iff.mp hPolicy,
      hEnabled, hTag, hNe, hNamed⟩
  · rintro ⟨policy, tag, hMatches⟩
    refine
      ⟨policy, policy?_eq_some_iff.mpr hMatches.governs, ?_⟩
    rw [isFresh, Bool.and_eq_true, Bool.not_eq_true',
      Tag.isNotModified_iff, get?_tag_governed]
    exact ⟨hMatches.enabled, tag, hMatches.tag_eq,
      hMatches.tag_ne, hMatches.named⟩

------------------------------------------------------------
-- What is sent
------------------------------------------------------------

/- A governed response is settled with the tags it has. -/
theorem getAll_tag_settled
    (hGoverns : Governs d r q policy) :
    (d.settled r q).headers.getAll "ETag" =
      Tag.valuesOf policy r := by
  have hPolicy := policy?_eq_some_iff.mpr hGoverns
  unfold settled
  rw [hPolicy]
  simp only
  split
  · exact getAll_tag_governed d r policy
  · exact getAll_tag_governed d r policy

/- The headers are those that a policy gives a response. -/
structure CarriesPolicy
    (policy : CachePolicy)
    (r : Response σ)
    (headers : WireHeaders) : Prop where
  control :
    headers.getAll "Cache-Control" = [policy.render]
  tags :
    headers.getAll "ETag" =
      (Tag.valuesOf policy r).filter Header.isFieldText

theorem carriesPolicy_carried
    (hGoverns : Governs d r q policy) :
    CarriesPolicy policy r
      (applyEdits .empty
        (carryEdits d.codec (d.settled r q) q)) where
  control := by
    have hPolicy := policy?_eq_some_iff.mpr hGoverns
    rw [getAll_sent (by decide +kernel) (by decide +kernel),
      getAll_cacheControl_settled hPolicy,
      List.filter_cons_of_pos policy.isFieldText_render,
      List.filter_nil]
  tags := by
    rw [getAll_sent (by decide +kernel) (by decide +kernel),
      getAll_tag_settled hGoverns]

/- Streaming and framing a payload leave them alone. -/
theorem CarriesPolicy.applyEdits
    {headers : WireHeaders}
    (hCarries : CarriesPolicy policy r headers)
    {edits : List HeaderEdit}
    (hEdits : EditsOnly Ranged.rangedNames edits) :
    CarriesPolicy policy r
      (Exchange.applyEdits headers edits) where
  control := by
    rw [hEdits.getAll_applyEdits (by decide +kernel),
      hCarries.control]
  tags := by
    rw [hEdits.getAll_applyEdits (by decide +kernel),
      hCarries.tags]

/- A tag that a client can name is sent as the last one. -/
theorem CarriesPolicy.getLast?_tags
    {headers : WireHeaders}
    (hCarries : CarriesPolicy policy r headers)
    (hTag : Tag.of? policy r = some tag)
    (hText : Header.isFieldText tag) :
    (headers.getAll "ETag").getLast? = some tag := by
  rw [← Tag.getLast?_valuesOf, List.getLast?_eq_some_iff] at hTag
  rcases hTag with ⟨before, hValues⟩
  rw [hCarries.tags, hValues, List.filter_append,
    List.filter_cons_of_pos hText, List.filter_nil]
  exact List.getLast?_concat

/-
  The headers change and one head is sent, a 304 with the value
  of the policy and the tag that the client named. Further tags
  are those that the handler wrote. Nothing is written, no
  source is touched and no producer is answered.
-/
structure SendsNotModified
    (policy : CachePolicy)
    (tag : String)
    (r : Response σ)
    (es : List Event)
    (headers : WireHeaders) : Prop where
  seen : signals es = [.head 304 headers]
  alone : ∀ e ∈ es, e.IsEdit ∨ e.IsHead
  control : headers.getAll "Cache-Control" = [policy.render]
  tag_last : (headers.getAll "ETag").getLast? = some tag
  tag_own :
    ∀ value ∈ headers.getAll "ETag",
      value = tag ∨ value ∈ r.headers.getAll "ETag"

variable {τ : Type} [Connection τ] [Connection.NeverFails τ]
variable [ByteSource σ]

/- A client that names the tag is sent a 304 with it. -/
theorem exists_sendsNotModified
    (hHandler : r.handler = none)
    (hDated : Dated r.cookies)
    (hMatches : Matches d r q policy tag)
    (c : τ) :
    ∃ headers,
      SendsNotModified policy tag r
        (since (.start c) (perform (d.deliver r q) (.start c)).2)
        headers := by
  have hFresh : d.answersFresh r q = true :=
    answersFresh_iff.mpr ⟨policy, tag, hMatches⟩
  have hCarries : CarriesPolicy policy r _ :=
    carriesPolicy_carried hMatches.governs
  have hText : Header.isFieldText tag := by
    rcases Option.bind_eq_some_iff.mp hMatches.named with
      ⟨value, _, hVisible⟩
    exact RequestHead.isFieldText_of_visible hVisible
  rcases deliver_of_fresh hHandler hDated hFresh c with
    ⟨_, hSeen, hAlone⟩
  refine ⟨_, hSeen, hAlone, hCarries.control,
    hCarries.getLast?_tags hMatches.tag_eq hText, ?_⟩
  intro value hValue
  rw [hCarries.tags, List.mem_filter] at hValue
  exact Tag.eq_or_mem_of_mem_valuesOf hMatches.tag_eq hValue.1

/- What goes out as a success has the headers of the policy. -/
theorem exists_head_of_governs
    (hHandler : r.handler = none)
    (hDated : Dated r.cookies)
    (hGoverns : Governs d r q policy)
    (c : τ) :
    ∃ status headers rest,
      signals
          (since (.start c)
            (perform (d.deliver r q) (.start c)).2) =
        .head status headers :: rest ∧
        (∀ s ∈ rest, ¬ s.IsHead) ∧
        (status < 300 → CarriesPolicy policy r headers) := by
  rcases exists_head_of_dated hHandler hDated d q c with
    ⟨sent, edits, rest, hSignals, hHeads, hEdits, _⟩
  have hCarries := carriesPolicy_carried hGoverns
  refine ⟨sent, _, rest, hSignals, hHeads, ?_⟩
  intro _
  exact hCarries.applyEdits hEdits

/-
  A dated response is answered as not modified exactly when the
  client names the tag of a response that a policy governs and
  that may be answered so; nothing else in the request matters.
  Then a 304 with the value of the policy and that tag is all
  that is sent. A governed response that goes out as a success
  has the headers of its policy as well.
-/
theorem deliver_notModified
    {r : Response σ}
    (hHandler : r.handler = none)
    (hDated : Dated r.cookies)
    (d : Delivery)
    (q : RequestHead)
    (c : τ) :
    let x := Exchange.start c
    let run := perform (d.deliver r q) x
    (run.1 = .ok .notModified ↔
        ∃ policy tag, Matches d r q policy tag) ∧
      (∀ policy tag,
        Matches d r q policy tag →
          ∃ headers,
            SendsNotModified policy tag r (since x run.2)
              headers) ∧
      ∀ policy,
        Governs d r q policy →
          ∃ status headers rest,
            signals (since x run.2) =
                .head status headers :: rest ∧
              (∀ s ∈ rest, ¬ s.IsHead) ∧
              (status < 300 →
                CarriesPolicy policy r headers) := by
  intro x run
  refine ⟨?_, ?_, ?_⟩
  · rw [← answersFresh_iff]
    constructor
    · intro hResult
      rcases exists_pays_of_dated hHandler hDated d q c with
        ⟨result, es, hReported, _, _, _, hPays⟩
      cases hFresh : d.answersFresh r q with
      | true => rfl
      | false =>
          rw [hFresh] at hReported
          have hSame : result = .ok .notModified :=
            hReported.symm.trans hResult
          exact absurd hSame hPays.ne_notModified
    · intro hFresh
      exact (deliver_of_fresh hHandler hDated hFresh c).1
  · intro policy tag hMatches
    exact exists_sendsNotModified hHandler hDated hMatches c
  · intro policy hGoverns
    exact exists_head_of_governs hHandler hDated hGoverns c

/- A client that has the current text asks for a part of it. -/
theorem deliver_notModified_of_named_tag :
    let d : Delivery := hourly
    let r : Response MemorySource :=
      { (Response.ofStatus 200).text "hello" "text/plain" with
        allowStreaming := true
        tag := some "v2" }.setHeader "ETag" "v1"
    let q : RequestHead :=
      .ofParts "GET" "/"
        [("If-None-Match", "v2".toUTF8),
          ("Range", "bytes=1-3".toUTF8)]
    let x : Exchange OpenConnection := .start .fresh
    let run := perform (d.deliver r q) x
    run.1 = .ok .notModified ∧
      ∃ headers,
        SendsNotModified { maxAge := { seconds := 3600 } } "v2"
          r (since x run.2) headers := by
  intro d r q x run
  have hDated : Dated r.cookies := by decide
  have hMatches :
      Matches d r q { maxAge := { seconds := 3600 } } "v2" :=
    { governs :=
        { success := by decide
          get := by decide
          unsaid := by decide +kernel
          policy_eq := rfl }
      enabled := rfl
      tag_eq := rfl
      tag_ne := by decide
      named := by decide +kernel }
  rcases deliver_notModified rfl hDated d q
      OpenConnection.fresh with ⟨hIff, hSends, _⟩
  exact ⟨hIff.mpr ⟨_, _, hMatches⟩, hSends _ _ hMatches⟩

end Delivery

end Courier
