import Courier.Proofs.Delivery.CacheHeaders

/-
  What becomes of the cookies of a response. They are appended
  to the message first, and the headers of the response are
  copied over them: when the response has a `Set-Cookie` header
  of its own, that header replaces the cookies.

  Key definitions include:
    * `Cookie.Carriable`
    * `Cookie.writtenForms`
    * `Delivery.KeepsCookies`

  Main statements:
    * `Exchange.getAll_cookieEdits`
    * `Assembly.getAll_setCookie_carried`
    * `Delivery.exists_head_of_carriable`
    * `Delivery.keepsCookies_iff`
-/

namespace Courier

open Exchange Trace

------------------------------------------------------------
-- Written cookies
------------------------------------------------------------

namespace Cookie

/- The values of the headers that set these cookies. -/
def writtenForms
    (cookies : List Cookie) : List String :=
  cookies.filterMap render?

/- Every cookie can be written, and a message can carry it. -/
def Carriable
    (cookies : List Cookie) : Prop :=
  ∀ c ∈ cookies, c.render?.any Header.isFieldText

instance
    (cookies : List Cookie) :
    Decidable (Carriable cookies) :=
  inferInstanceAs
    (Decidable
      (∀ c ∈ cookies, c.render?.any Header.isFieldText))

variable {cookies : List Cookie}

/- What can be carried can be dated. -/
theorem Carriable.dated
    (hCookies : Carriable cookies) :
    Dated cookies := by
  intro c hc
  rcases (Option.any_eq_true _ _).mp (hCookies c hc) with
    ⟨value, hRender, _⟩
  rw [hRender]
  rfl

/- A message leaves none of these cookies out. -/
theorem Carriable.filter_writtenForms
    (hCookies : Carriable cookies) :
    (writtenForms cookies).filter Header.isFieldText =
      writtenForms cookies := by
  rw [List.filter_eq_self]
  intro value hValue
  rcases List.mem_filterMap.mp hValue with ⟨c, hc, hRender⟩
  rw [← Option.any_some (p := Header.isFieldText), ← hRender]
  exact hCookies c hc

end Cookie

namespace Exchange

/- Cookies are appended, those that can be carried. -/
theorem getAll_cookieEdits
    {cookies : List Cookie}
    (hDated : Dated cookies)
    (w : WireHeaders) :
    (applyEdits w (cookieEdits cookies)).getAll "Set-Cookie" =
      w.getAll "Set-Cookie"
        ++ (Cookie.writtenForms cookies).filter
          Header.isFieldText := by
  have hToken : Header.isToken "Set-Cookie" := by decide
  induction cookies generalizing w with
  | nil => simp [cookieEdits, Cookie.writtenForms]
  | cons cookie rest ih =>
      have hRest : Dated rest :=
        fun c hc => hDated c (List.mem_cons_of_mem _ hc)
      rcases Option.isSome_iff_exists.mp
          (hDated cookie List.mem_cons_self) with
        ⟨value, hRender⟩
      have hAdd :
          (w.add "Set-Cookie" value).getAll "Set-Cookie" =
            w.getAll "Set-Cookie"
              ++ [value].filter Header.isFieldText := by
        by_cases hText : Header.isFieldText value <;>
          simp [WireHeaders.getAll_add, Header.isSendable,
            hToken, hText]
      have hForms :
          Cookie.writtenForms (cookie :: rest) =
            [value] ++ Cookie.writtenForms rest := by
        simp [Cookie.writtenForms, hRender]
      simp only [cookieEdits, hRender, applyEdits_cons]
      rw [ih hRest]
      change (w.add _ _).getAll _ ++ _ = _
      rw [hAdd, hForms, List.filter_append, List.append_assoc]

end Exchange

namespace Assembly

/-
  The `Set-Cookie` values before the payload is sent: those of
  the response's own header, or else its cookies.
-/
theorem getAll_setCookie_carried
    {σ : Type}
    {r : Response σ}
    (hDated : Dated r.cookies)
    (codec : Codec)
    (q : RequestHead) :
    (applyEdits .empty (carryEdits codec r q)).getAll
        "Set-Cookie" =
      (if r.headers.has "Set-Cookie" then
        r.headers.getAll "Set-Cookie"
      else
        Cookie.writtenForms r.cookies).filter
          Header.isFieldText := by
  have hOwn :
      (encoded codec r q).headers.getAll "Set-Cookie" =
        r.headers.getAll "Set-Cookie" :=
    getAll_encoded codec r q (by decide +kernel)
  have hHas := HeaderList.has_congr hOwn
  rw [carryEdits, applyEdits_append, applyEdits_copyEdits,
    HeaderList.getAll_copyInto _ _ (by decide +kernel), hOwn,
    hHas, getAll_cookieEdits hDated]
  by_cases hSet : r.headers.has "Set-Cookie"
  · rw [if_pos hSet, if_pos hSet]
  · rw [if_neg hSet, if_neg hSet]
    rfl

end Assembly

------------------------------------------------------------
-- Cookies of a delivery
------------------------------------------------------------

namespace Delivery

/- The message sets every one of the cookies, in order. -/
def KeepsCookies
    (cookies : List Cookie)
    (headers : WireHeaders) : Prop :=
  (Cookie.writtenForms cookies).Sublist
    (headers.getAll "Set-Cookie")

variable {τ σ : Type} [Connection τ] [Connection.NeverFails τ]
variable [ByteSource σ]

/-
  A delivery sends one head. It sets the cookies of the response
  and nothing else when the response has no `Set-Cookie` header,
  and otherwise it has the values of that header.
-/
theorem exists_head_of_carriable
    {r : Response σ}
    (hHandler : r.handler = none)
    (hCookies : Cookie.Carriable r.cookies)
    (d : Delivery)
    (q : RequestHead)
    (c : τ) :
    ∃ status headers rest,
      signals
          (since (.start c)
            (perform (d.deliver r q) (.start c)).2) =
        .head status headers :: rest ∧
        (∀ s ∈ rest, ¬ s.IsHead) ∧
        headers.getAll "Set-Cookie" =
          if r.headers.has "Set-Cookie" then
            (r.headers.getAll "Set-Cookie").filter
              Header.isFieldText
          else
            Cookie.writtenForms r.cookies := by
  rcases exists_head_of_dated hHandler hCookies.dated d q c with
    ⟨sent, edits, rest, hSignals, hHeads, hEdits, _⟩
  have hOwn :
      (d.settled r q).headers.getAll "Set-Cookie" =
        r.headers.getAll "Set-Cookie" :=
    d.getAll_settled r q (by decide +kernel)
  have hHas := HeaderList.has_congr hOwn
  have hDated : Dated (d.settled r q).cookies := by
    rw [cookies_settled]
    exact hCookies.dated
  refine ⟨sent, _, rest, hSignals, hHeads, ?_⟩
  rw [hEdits.getAll_applyEdits (by decide +kernel),
    Assembly.getAll_setCookie_carried hDated, hHas, hOwn,
    cookies_settled]
  split
  · rfl
  · exact hCookies.filter_writtenForms

/-
  The one head of a delivery keeps the cookies of the response
  exactly when the response has no `Set-Cookie` header, or one
  that happens to repeat them.
-/
theorem keepsCookies_iff
    {r : Response σ}
    (hHandler : r.handler = none)
    (hCookies : Cookie.Carriable r.cookies)
    (d : Delivery)
    (q : RequestHead)
    (c : τ) :
    let run := perform (d.deliver r q) (.start c)
    let own :=
      (r.headers.getAll "Set-Cookie").filter Header.isFieldText
    ∃ status headers rest,
      signals (since (.start c) run.2) =
          .head status headers :: rest ∧
        (∀ s ∈ rest, ¬ s.IsHead) ∧
        (KeepsCookies r.cookies headers ↔
          r.headers.has "Set-Cookie" = false ∨
            (Cookie.writtenForms r.cookies).Sublist own) ∧
        headers.getAll "Set-Cookie" =
          if r.headers.has "Set-Cookie" then own
          else Cookie.writtenForms r.cookies := by
  intro run own
  rcases exists_head_of_carriable hHandler hCookies d q c with
    ⟨status, headers, rest, hSignals, hHeads, hValues⟩
  refine ⟨status, headers, rest, hSignals, hHeads, ?_, hValues⟩
  unfold KeepsCookies
  rw [hValues]
  cases hOwn : r.headers.has "Set-Cookie" with
  | true => simp [own]
  | false => simp

------------------------------------------------------------
-- A cookie header beside a removed cookie
------------------------------------------------------------

/- A farewell that ends the session and sets the theme. -/
def farewell : Response MemorySource :=
  Response.ofStatus 200
    |>.deleteCookie "session"
    |>.addHeader "Set-Cookie" "theme=dark"

/- A request for the front page. -/
def frontPage : RequestHead :=
  .ofParts "GET" "/" []

/- The client is not told to drop the session. -/
theorem farewell_loses_cookie :
    let d : Delivery := { codec := .standard }
    let x : Exchange OpenConnection := .start .fresh
    farewell.handler = none ∧
      Cookie.Carriable farewell.cookies ∧
      ∃ status headers rest,
        signals
            (since x (perform (d.deliver farewell frontPage) x).2) =
          .head status headers :: rest ∧
          (∀ s ∈ rest, ¬ s.IsHead) ∧
          headers.getAll "Set-Cookie" = ["theme=dark"] ∧
          ¬ KeepsCookies farewell.cookies headers := by
  intro d x
  have hCookies : Cookie.Carriable farewell.cookies := by
    decide +kernel
  have hLost :
      ¬ (Cookie.writtenForms farewell.cookies).Sublist
          ["theme=dark"] := by
    decide +kernel
  rcases exists_head_of_carriable rfl hCookies d frontPage
      OpenConnection.fresh with
    ⟨status, headers, rest, hSignals, hHeads, hValues⟩
  have hOwn :
      headers.getAll "Set-Cookie" = ["theme=dark"] := by
    rw [hValues]
    decide +kernel
  refine ⟨rfl, hCookies, status, headers, rest, hSignals,
    hHeads, hOwn, ?_⟩
  rw [KeepsCookies, hOwn]
  exact hLost

theorem keepsCookies_iff_of_farewell :
    let d : Delivery := { codec := .standard }
    let x : Exchange OpenConnection := .start .fresh
    let own :=
      (farewell.headers.getAll "Set-Cookie").filter
        Header.isFieldText
    ∃ status headers rest,
      signals
          (since x (perform (d.deliver farewell frontPage) x).2) =
        .head status headers :: rest ∧
        (∀ s ∈ rest, ¬ s.IsHead) ∧
        (KeepsCookies farewell.cookies headers ↔
          farewell.headers.has "Set-Cookie" = false ∨
            (Cookie.writtenForms farewell.cookies).Sublist
              own) ∧
        headers.getAll "Set-Cookie" =
          if farewell.headers.has "Set-Cookie" then own
          else Cookie.writtenForms farewell.cookies := by
  intro d
  exact keepsCookies_iff rfl (by decide +kernel) d frontPage
    OpenConnection.fresh

end Delivery

end Courier
