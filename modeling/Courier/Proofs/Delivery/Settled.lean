import Courier.Delivery.Basic
import Courier.Proofs.Delivery.Assembly
import Courier.Proofs.Encoding.Apply

/-
  Delivering a response is sending another one, in which the
  settings are decided: the policy is written into its headers,
  and it has no body when the client has the response already.

  Key definitions include:
    * `Delivery.settled`
    * `Delivery.answersFresh`

  Main statements:
    * `Delivery.perform_deliver`
    * `Delivery.perform_deliver_of_dated`
    * `Delivery.getAll_settled`
    * `Assembly.getAll_encoded`
    * `Delivery.getAll_sent`
-/

namespace Courier

open Exchange

variable {σ : Type}

------------------------------------------------------------
-- Tags
------------------------------------------------------------

/- Giving a response its tag changes no other header. -/
theorem Tag.getAll_apply
    {name : String}
    (hName : name.toLower ≠ "ETag".toLower)
    (headers : HeaderList)
    (body : ByteArray)
    (explicit : Option String) :
    (Tag.apply headers body explicit).getAll name =
      headers.getAll name := by
  unfold Tag.apply
  split
  · rfl
  · split
    · rw [HeaderList.getAll_set, if_neg hName]
    · split
      · rfl
      · rw [HeaderList.getAll_set, if_neg hName]

namespace Delivery

------------------------------------------------------------
-- The settled response
------------------------------------------------------------

/- The response with a policy written into its headers. -/
def governed
    (d : Delivery)
    (r : Response σ)
    (policy : CachePolicy) : Response σ :=
  applyPolicy policy (d.fillSettings r)

/- True when the client is told to use what it has. -/
def answersFresh
    (d : Delivery)
    (r : Response σ)
    (q : RequestHead) : Bool :=
  (d.policy? r q).any fun policy =>
    isFresh policy (d.governed r policy) q

/- The response that is sent. -/
def settled
    (d : Delivery)
    (r : Response σ)
    (q : RequestHead) : Response σ :=
  match d.policy? r q with
  | none => d.fillEncoding (d.fillSettings r)
  | some policy =>
      if isFresh policy (d.governed r policy) q then
        (d.governed r policy).notModified
      else
        d.fillEncoding (d.governed r policy)

/- The result that is reported when the response was sent. -/
def reported
    (fresh : Bool)
    (result : Assembly.Result) : Assembly.Result :=
  if fresh then result.map fun _ => .notModified else result

/- Delivering a response is sending the settled one. -/
theorem perform_deliver
    {τ : Type} [Connection τ] [ByteSource σ]
    {r : Response σ}
    (hHandler : r.handler = none)
    (d : Delivery)
    (q : RequestHead)
    (x : Exchange τ) :
    perform (d.deliver r q) x =
      let run :=
        perform (Assembly.send d.codec (d.settled r q) q) x
      (reported (d.answersFresh r q) run.1, run.2) := by
  have hPolicy :
      d.policy? (d.fillSettings r) q = d.policy? r q := rfl
  unfold deliver settled answersFresh
  rw [hHandler]
  simp only [Option.isSome_none, Bool.false_eq_true, if_false,
    hPolicy]
  cases d.policy? r q with
  | none => rfl
  | some policy =>
      by_cases hFresh :
          isFresh policy (d.governed r policy) q
      · have hApplied := hFresh
        rw [governed] at hApplied
        simp only [hFresh, hApplied, if_true, Option.any_some]
        rfl
      · rw [Bool.not_eq_true] at hFresh
        have hApplied := hFresh
        rw [governed] at hApplied
        simp only [hFresh, hApplied, Bool.false_eq_true,
          if_false, Option.any_some]
        rfl

------------------------------------------------------------
-- What settling leaves alone
------------------------------------------------------------

section Fields

variable (d : Delivery) (r : Response σ)
variable (policy : CachePolicy) (q : RequestHead)

/- Only the headers and the settings of a response change. -/
theorem governed_eq :
    d.governed r policy =
      { r with
        headers := (d.governed r policy).headers
        settings := r.settings.or d.settings } := by
  unfold governed applyPolicy
  simp only [fillSettings, Response.setHeader]
  split
  · split <;> rfl
  · rfl

@[simp] theorem handler_settled
    (hHandler : r.handler = none) :
    (d.settled r q).handler = none := by
  unfold settled
  split
  · exact hHandler
  · next policy _ =>
      split
      · rfl
      · rw [governed_eq]
        exact hHandler

@[simp] theorem cookies_settled :
    (d.settled r q).cookies = r.cookies := by
  unfold settled
  split
  · rfl
  · next policy _ =>
      rw [governed_eq]
      split <;> rfl

/-
  A response that is not answered fresh has its settings filled
  in, and its headers changed by the policy.
-/
theorem settled_eq
    (hFresh : d.answersFresh r q = false) :
    d.settled r q =
      { r with
        headers := (d.settled r q).headers
        settings := r.settings.or d.settings
        encoding := some (r.encoding.getD d.encoding) } := by
  unfold answersFresh at hFresh
  unfold settled
  split
  · rfl
  · next policy hPolicy =>
      rw [hPolicy, Option.any_some] at hFresh
      rw [hFresh, governed_eq]
      rfl

/- A response that is not answered fresh keeps its payload. -/
theorem payload_settled
    (hFresh : d.answersFresh r q = false) :
    (d.settled r q).payload = r.payload ∧
      (d.settled r q).status = r.status := by
  rw [d.settled_eq r q hFresh]
  exact ⟨rfl, rfl⟩

/- A response that is answered fresh has no body. -/
theorem payload_settled_of_fresh
    (hFresh : d.answersFresh r q = true) :
    (d.settled r q).payload = .empty ∧
      (d.settled r q).status = 304 := by
  unfold answersFresh at hFresh
  unfold settled
  split
  · next hPolicy => simp [hPolicy] at hFresh
  · next policy hPolicy =>
      rw [hPolicy, Option.any_some] at hFresh
      rw [if_pos hFresh]
      exact ⟨rfl, rfl⟩

/- A policy writes two names. -/
def policyNames : List String :=
  ["Cache-Control", "ETag"]

/- Apart from its tag a response gets the policy's header. -/
theorem getAll_governed_of_ne
    {name : String}
    (hName : name.toLower ≠ "ETag".toLower) :
    (d.governed r policy).headers.getAll name =
      (r.headers.set "Cache-Control" policy.render).getAll
        name := by
  unfold governed applyPolicy
  simp only [fillSettings, Response.setHeader]
  split
  · split
    · rfl
    · exact Tag.getAll_apply hName _ _ _
  · rfl

/- A policy is written as the one value of its header. -/
theorem getAll_cacheControl_governed :
    (d.governed r policy).headers.getAll "Cache-Control" =
      [policy.render] := by
  rw [getAll_governed_of_ne d r policy (by decide +kernel),
    HeaderList.getAll_set, if_pos rfl]

theorem getAll_governed
    {name : String}
    (hName : name.toLower ∉ policyNames.map String.toLower) :
    (d.governed r policy).headers.getAll name =
      r.headers.getAll name := by
  simp only [policyNames, List.map_cons, List.map_nil,
    List.mem_cons, List.not_mem_nil, or_false, not_or] at hName
  rw [getAll_governed_of_ne d r policy hName.2,
    HeaderList.getAll_set, if_neg hName.1]

/- Every other name is sent as the handler wrote it. -/
theorem getAll_settled
    {name : String}
    (hName : name.toLower ∉ policyNames.map String.toLower) :
    (d.settled r q).headers.getAll name =
      r.headers.getAll name := by
  unfold settled
  split
  · rfl
  · next policy _ =>
      split
      · exact d.getAll_governed r policy hName
      · exact d.getAll_governed r policy hName

end Fields

/-
  A response whose cookies can be dated is delivered as the
  settled one: its cookies and headers come first, then its
  payload is sent.
-/
theorem perform_deliver_of_dated
    {τ : Type} [Connection τ] [ByteSource σ]
    {r : Response σ}
    (hHandler : r.handler = none)
    (hDated : Dated r.cookies)
    (d : Delivery)
    (q : RequestHead)
    (x : Exchange τ) :
    ∃ result es x',
      perform (d.deliver r q) x =
          (reported (d.answersFresh r q) result, x') ∧
        Assembly.Pays
          (Assembly.encoded d.codec (d.settled r q) q) q
          (applyEdits x.headers
            (Assembly.carryEdits d.codec (d.settled r q) q))
          es result ∧
        Leads x
          ((Assembly.carryEdits d.codec (d.settled r q)
              q).map .edit ++ es) x' := by
  have hSettled := d.handler_settled r q hHandler
  rw [← d.cookies_settled r q] at hDated
  rcases Assembly.perform_send hSettled hDated d.codec q x with
    ⟨result, es, x', hSend, hPays, hLeads⟩
  refine ⟨result, es, x', ?_, hPays, hLeads⟩
  rw [perform_deliver hHandler, hSend]

end Delivery

namespace Assembly

------------------------------------------------------------
-- What encoding leaves alone
------------------------------------------------------------

/- Offering ranges and encoding write two names. -/
def encodingNames : List String :=
  ["Accept-Ranges", "Content-Encoding"]

section Fields

variable (codec : Codec) (r : Response σ) (q : RequestHead)

/- Only the headers and the body of a response change. -/
theorem encoded_eq :
    encoded codec r q =
      { r with
        headers := (encoded codec r q).headers
        payload := (encoded codec r q).payload } := by
  unfold encoded encodeBody offerRanges
  split <;> split <;> rfl

@[simp] theorem status_encoded :
    (encoded codec r q).status = r.status := by
  rw [encoded_eq]

/- Offering ranges writes one name. -/
theorem getAll_offerRanges
    {name : String}
    (hName : name.toLower ≠ "Accept-Ranges".toLower) :
    (offerRanges r).headers.getAll name =
      r.headers.getAll name := by
  unfold offerRanges
  split
  · exact (r.headers.getAll_set _ _ name).trans (if_neg hName)
  · rfl

/- Every other name is sent as it was. -/
theorem getAll_encoded
    {name : String}
    (hName : name.toLower ∉ encodingNames.map String.toLower) :
    (encoded codec r q).headers.getAll name =
      r.headers.getAll name := by
  simp only [encodingNames, List.map_cons, List.map_nil,
    List.mem_cons, List.not_mem_nil, or_false, not_or] at hName
  have hOffer := getAll_offerRanges r hName.1
  unfold encoded encodeBody
  split
  · rw [codec.getAll_apply _ _ _ _ hName.2, hOffer]
  · exact hOffer

/- A buffered body and its headers are handed to the codec. -/
theorem encoded_of_body
    {bytes : ByteArray}
    (hPayload : r.payload = .body bytes) :
    let applied :=
      codec.apply (r.encoding.getD .auto)
        (offerRanges r).headers bytes
        (q.header? "Accept-Encoding")
    (encoded codec r q).payload = .body applied.body ∧
      (encoded codec r q).headers = applied.headers := by
  have hOffer :
      (offerRanges r).payload = .body bytes ∧
        (offerRanges r).encoding = r.encoding := by
    unfold offerRanges
    split <;> exact ⟨hPayload, rfl⟩
  unfold encoded encodeBody
  rw [hOffer.1, hOffer.2]
  exact ⟨rfl, rfl⟩

/- A buffered body stays one. -/
theorem payload_encoded_of_body
    {bytes : ByteArray}
    (hPayload : r.payload = .body bytes) :
    ∃ packed, (encoded codec r q).payload = .body packed :=
  ⟨_, (encoded_of_body codec r q hPayload).1⟩

/- Any other payload is left alone. -/
theorem payload_encoded
    (hPayload : ∀ bytes, r.payload ≠ .body bytes) :
    (encoded codec r q).payload = r.payload := by
  have hOffer : (offerRanges r).payload = r.payload := by
    unfold offerRanges
    split <;> rfl
  unfold encoded encodeBody
  split
  · next bytes hBody =>
      exact absurd (hOffer.symm.trans hBody) (hPayload bytes)
  · exact hOffer

/- What the connection carries before the payload is sent. -/
theorem getAll_carried
    {name : String}
    (hToken : Header.isToken name.toLower)
    (hName : name.toLower ≠ "Set-Cookie".toLower) :
    (applyEdits .empty (carryEdits codec r q)).getAll name =
      ((encoded codec r q).headers.getAll name).filter
        Header.isFieldText := by
  have hCookies :
      (applyEdits .empty (cookieEdits r.cookies)).getAll name =
        [] := by
    rw [(editsOnly_cookieEdits r.cookies).getAll_applyEdits
      (by simpa using hName)]
    rfl
  rw [carryEdits, applyEdits_append, applyEdits_copyEdits,
    HeaderList.getAll_copyInto _ _ hToken, hCookies]
  split
  · rfl
  · next hHas =>
      rw [Bool.not_eq_true, HeaderList.has_eq_false_iff] at hHas
      rw [hHas, List.filter_nil]

end Fields

end Assembly

------------------------------------------------------------
-- What is sent
------------------------------------------------------------

namespace Delivery

open Assembly

/- The names that sending a settled response writes. -/
def sendingNames : List String :=
  ["Set-Cookie", "Accept-Ranges", "Content-Encoding"]

section Fields

variable {d : Delivery} {r : Response σ} {q : RequestHead}

/- The connection carries the headers of a settled response. -/
theorem getAll_sent
    {name : String}
    (hToken : Header.isToken name.toLower)
    (hName : name.toLower ∉ sendingNames.map String.toLower) :
    (applyEdits .empty
        (carryEdits d.codec (d.settled r q) q)).getAll name =
      ((d.settled r q).headers.getAll name).filter
        Header.isFieldText := by
  have hBoth :
      name.toLower ≠ "Set-Cookie".toLower ∧
        name.toLower ∉ encodingNames.map String.toLower := by
    simpa [sendingNames, encodingNames] using hName
  rw [getAll_carried d.codec _ q hToken hBoth.1,
    getAll_encoded d.codec _ q hBoth.2]

/- What nobody writes is not carried. -/
theorem getAll_sent_eq_nil
    {name : String}
    (hToken : Header.isToken name.toLower)
    (hSending :
      name.toLower ∉ sendingNames.map String.toLower)
    (hPolicy : name.toLower ∉ policyNames.map String.toLower)
    (hHandler : r.headers.has name = false) :
    (applyEdits .empty
        (carryEdits d.codec (d.settled r q) q)).getAll name =
      [] := by
  rw [HeaderList.has_eq_false_iff] at hHandler
  rw [getAll_sent hToken hSending,
    getAll_settled d r q hPolicy, hHandler, List.filter_nil]

end Fields

end Delivery

end Courier
