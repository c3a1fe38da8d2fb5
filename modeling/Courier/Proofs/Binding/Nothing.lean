import Courier.Server.Endpoint
import Mathlib.Tactic.Basic

/-
  Endpoints that ask for nothing. To ask for nothing is to read
  a map and to drop its entries, so that the handler is reached
  just when the format of the parameters and that of the body
  show a map which can be read to its end.

  Key definitions include:
    * `Format.ShowsMap`
    * `Formats.ReadsForms`
    * `Request.HasParams`
    * `Request.HasBody`
    * `Request.paramsError`
    * `Request.bodyError`

  Main statements:
    * `Request.bindParams_nothing_cases`
    * `Request.bindBody_nothing_cases`
    * `Endpoint.bound_nothing`
-/

namespace Courier

------------------------------------------------------------
-- Formats
------------------------------------------------------------

/-
  A format shows bytes as a map or as nothing at all, and every
  entry can be read.
-/
def Format.ShowsMap
    (format : Format)
    (bytes : List UInt8) : Prop :=
  ∃ shown, format.shown? bytes = some shown ∧ shown.isReadable

/- Any bytes are a form whose entries can be read. -/
def Formats.ReadsForms
    (f : Formats) : Prop :=
  ∀ bytes, f.form.ShowsMap bytes

theorem Format.showsMap_iff
    (format : Format)
    (bytes : List UInt8) :
    format.ShowsMap bytes ↔
      (format.shown? bytes).any Shown.isReadable := by
  rw [Option.any_eq_true]
  rfl

/- Nothing is bound to bytes that are shown as a map. -/
theorem Format.orFail_bind?_nothing_cases
    (format : Format)
    (error : BindError)
    (bytes : List UInt8) :
    let given :=
      Request.orFail error (format.bind? .nothing bytes)
    format.ShowsMap bytes ∧ given = .ok .nothing ∨
      ¬ format.ShowsMap bytes ∧ given = .error error := by
  intro given
  rw [showsMap_iff]
  by_cases hShown : (format.shown? bytes).any Shown.isReadable
  · have hBind : format.bind? .nothing bytes = some .nothing :=
      if_pos hShown
    exact .inl ⟨hShown, by simp only [given, hBind]; rfl⟩
  · have hBind : format.bind? .nothing bytes = none :=
      if_neg hShown
    exact .inr ⟨hShown, by simp only [given, hBind]; rfl⟩

/- The standard forms can be read, whatever their bytes are. -/
theorem Formats.readsForms_standard :
    Formats.standard.ReadsForms := by
  intro bytes
  refine ⟨_, rfl, ?_⟩
  simp [Shown.isReadable]

namespace Request

variable {δ : Type}

------------------------------------------------------------
-- Parameters
------------------------------------------------------------

/-
  The parameters of the path can be written as a form, and with
  the query behind them they are shown as a map.
-/
def HasParams
    (f : Formats)
    (q : Request δ) : Prop :=
  ∃ own,
    f.writeForm? q.params.entries = some own ∧
      f.query.ShowsMap
        (Utf8.encode (parameterText own q.query?))

/- What is wrong with parameters that cannot be read. -/
def paramsError
    (f : Formats)
    (q : Request δ) : BindError :=
  if (f.writeForm? q.params.entries).isSome then .query
  else .pathParams

/- Parameters that are shown as a map hold nothing, too. -/
theorem bindParams_nothing_cases
    (f : Formats)
    (q : Request δ) :
    q.HasParams f ∧ q.bindParams f .nothing = .ok .nothing ∨
      ¬ q.HasParams f ∧
        q.bindParams f .nothing = .error (q.paramsError f) := by
  unfold HasParams bindParams paramsError
  cases f.writeForm? q.params.entries with
  | none => exact .inr ⟨nofun, rfl⟩
  | some own =>
      simp only [Option.some.injEq, exists_eq_left',
        Option.isSome_some, if_true]
      exact f.query.orFail_bind?_nothing_cases .query
        (Utf8.encode (parameterText own q.query?))

theorem bindParams_nothing_iff
    (f : Formats)
    (q : Request δ) :
    q.bindParams f .nothing = .ok .nothing ↔
      q.HasParams f := by
  rcases q.bindParams_nothing_cases f with
    ⟨hParams, hBound⟩ | ⟨hParams, hBound⟩
  · exact iff_of_true hBound hParams
  · rw [hBound]
    exact iff_of_false nofun hParams

theorem bindParams_nothing_of_not
    {f : Formats}
    {q : Request δ}
    (hParams : ¬ q.HasParams f) :
    q.bindParams f .nothing = .error (q.paramsError f) :=
  ((q.bindParams_nothing_cases f).resolve_left
    fun h => hParams h.1).2

------------------------------------------------------------
-- Bodies
------------------------------------------------------------

/-
  There is no body, or it is what its content type says: JSON
  that is shown as a map, or a form, which any bytes are.
-/
def HasBody
    (f : Formats)
    (q : Request δ) : Prop :=
  q.body.isEmpty ∨
    ∃ t, q.header? "Content-Type" = some t ∧
      (Text.startsWith jsonType t ∧
          f.json.ShowsMap q.body.toList ∨
        Text.startsWith formType t)

/- What is wrong with a body that cannot be read. -/
def bodyError
    (q : Request δ) : BindError :=
  if (q.header? "Content-Type").any (Text.startsWith jsonType)
  then .json
  else .unsupportedType (q.header? "Content-Type")

/- No content type announces both. -/
theorem not_startsWith_jsonType
    {t : String}
    (hForm : Text.startsWith formType t) :
    ¬ Text.startsWith jsonType t := by
  rw [Text.startsWith_iff] at hForm ⊢
  intro hJson
  have hPrefix := List.prefix_of_prefix_length_le hJson hForm
    (by decide)
  exact absurd hPrefix (by decide)

/- Any form holds nothing, too. -/
theorem orFail_form_nothing
    {f : Formats}
    (hForms : f.ReadsForms)
    (bytes : List UInt8) :
    orFail .form (f.form.bind? .nothing bytes) =
      .ok .nothing :=
  ((f.form.orFail_bind?_nothing_cases .form bytes).resolve_right
    fun h => h.1 (hForms bytes)).2

/- A body that can be read holds nothing, too. -/
theorem bindBody_nothing_cases
    {f : Formats}
    (hForms : f.ReadsForms)
    (q : Request δ) :
    q.HasBody f ∧ q.bindBody f .nothing = .ok .nothing ∨
      ¬ q.HasBody f ∧
        q.bindBody f .nothing = .error q.bodyError := by
  unfold HasBody bindBody bodyError
  by_cases hEmpty : q.body.isEmpty
  · rw [if_pos hEmpty]
    exact .inl ⟨.inl hEmpty, orFail_form_nothing hForms []⟩
  · rw [if_neg hEmpty, or_iff_right hEmpty]
    cases q.header? "Content-Type" with
    | none => exact .inr ⟨by simp, rfl⟩
    | some t =>
        simp only [Option.some.injEq, exists_eq_left',
          Option.any_some]
        by_cases hJson : Text.startsWith jsonType t
        · have hForm : ¬ Text.startsWith formType t :=
            fun hForm => not_startsWith_jsonType hForm hJson
          rw [if_pos hJson, if_pos hJson, or_iff_left hForm,
            and_iff_right hJson]
          exact f.json.orFail_bind?_nothing_cases .json
            q.body.toList
        · have hObject :
              ¬ (Text.startsWith jsonType t ∧
                f.json.ShowsMap q.body.toList) :=
            fun h => hJson h.1
          rw [if_neg hJson, if_neg hJson, or_iff_right hObject]
          by_cases hForm : Text.startsWith formType t
          · rw [if_pos hForm]
            exact .inl
              ⟨hForm, orFail_form_nothing hForms q.body.toList⟩
          · rw [if_neg hForm]
            exact .inr ⟨hForm, rfl⟩

theorem bindBody_nothing_iff
    {f : Formats}
    (hForms : f.ReadsForms)
    (q : Request δ) :
    q.bindBody f .nothing = .ok .nothing ↔ q.HasBody f := by
  rcases q.bindBody_nothing_cases hForms with
    ⟨hBody, hBound⟩ | ⟨hBody, hBound⟩
  · exact iff_of_true hBound hBody
  · rw [hBound]
    exact iff_of_false nofun hBody

theorem bindBody_nothing_of_not
    {f : Formats}
    (hForms : f.ReadsForms)
    {q : Request δ}
    (hBody : ¬ q.HasBody f) :
    q.bindBody f .nothing = .error q.bodyError :=
  ((q.bindBody_nothing_cases hForms).resolve_left
    fun h => hBody h.1).2

end Request

------------------------------------------------------------
-- Endpoints
------------------------------------------------------------

namespace Endpoint

section Bound

variable {ω δ : Type} {method : Option String} {path : String}
variable {settings : EndpointSettings ω δ} {f : Formats}
variable {params body : Schema}
variable {handler : Request δ → Bound → Bound → StateM ω Answer}
variable {q : Request δ}

/- A request that can be bound is handled. -/
theorem execute_of_bound
    {given sent : Bound}
    (hBody : q.bindBody f body = .ok sent)
    (hParams : q.bindParams f params = .ok given)
    (world : ω) :
    (bound method path settings f params body handler).execute q
        world =
      (.ok (handler q given sent world).1,
        (handler q given sent world).2) := by
  simp only [bound, hBody, hParams]
  rfl

/- One whose body cannot be bound is refused. -/
theorem execute_of_bad_body
    {error : BindError}
    (hBody : q.bindBody f body = .error error)
    (world : ω) :
    (bound method path settings f params body handler).execute q
        world =
      (.ok error.toResponse, world) := by
  simp only [bound, hBody]
  rfl

/- So is one whose parameters cannot be bound. -/
theorem execute_of_bad_params
    {error : BindError} {sent : Bound}
    (hBody : q.bindBody f body = .ok sent)
    (hParams : q.bindParams f params = .error error)
    (world : ω) :
    (bound method path settings f params body handler).execute q
        world =
      (.ok error.toResponse, world) := by
  simp only [bound, hBody, hParams]
  rfl

end Bound

/-
  Binding nothing fails just when the parameters, or the body,
  are not shown as a map that can be read. So an endpoint that
  asks for nothing reaches its handler when both are; if not it
  answers what is wrong with the body first, and the world stays
  as it is.
-/
theorem bound_nothing
    {ω δ : Type}
    {f : Formats}
    (hForms : f.ReadsForms)
    (method : Option String)
    (path : String)
    (settings : EndpointSettings ω δ)
    (handler : Request δ → Bound → Bound → StateM ω Answer)
    (q : Request δ) :
    let e :=
      bound method path settings f .nothing .nothing handler
    (q.bindParams f .nothing = .ok .nothing ↔ q.HasParams f) ∧
      (q.bindBody f .nothing = .ok .nothing ↔ q.HasBody f) ∧
      (∀ error : BindError,
        (error.toResponse : Answer).status = 400) ∧
      ∀ world,
        (q.HasBody f → q.HasParams f →
            e.execute q world =
              (.ok (handler q .nothing .nothing world).1,
                (handler q .nothing .nothing world).2)) ∧
          (¬ q.HasBody f →
            e.execute q world =
              (.ok q.bodyError.toResponse, world)) ∧
          (q.HasBody f → ¬ q.HasParams f →
            e.execute q world =
              (.ok (q.paramsError f).toResponse, world)) := by
  intro e
  refine ⟨q.bindParams_nothing_iff f,
    q.bindBody_nothing_iff hForms, fun _ => rfl, ?_⟩
  intro world
  refine ⟨?_, ?_, ?_⟩
  · intro hBody hParams
    exact execute_of_bound
      ((q.bindBody_nothing_iff hForms).mpr hBody)
      ((q.bindParams_nothing_iff f).mpr hParams) world
  · intro hBody
    exact execute_of_bad_body
      (Request.bindBody_nothing_of_not hForms hBody) world
  · intro hBody hParams
    exact execute_of_bad_params
      ((q.bindBody_nothing_iff hForms).mpr hBody)
      (Request.bindParams_nothing_of_not hParams) world

/- An endpoint that asks for nothing and counts its requests. -/
def counter : Endpoint Nat Unit :=
  bound none "/" {} .standard .nothing .nothing
    fun _ _ _ count => (.ofStatus 200, count + 1)

/- Parameters, a query and a form are dropped. -/
theorem bound_nothing_of_form :
    let q : Request Unit :=
      { head := .ofParts "POST" "/x?a=1&b=2"
          [("Content-Type", Request.formType.toUTF8)]
        params := ⟨[("id", "1")]⟩
        body := "a=1&b=2".toUTF8 }
    Formats.standard.ReadsForms ∧
      q.HasBody .standard ∧ q.HasParams .standard ∧
      ∃ answer : Answer,
        counter.execute q 0 = (.ok answer, 1) ∧
          answer.status = 200 := by
  intro q
  have hForms := Formats.readsForms_standard
  have hBody : q.HasBody .standard := by
    refine .inr ⟨Request.formType, ?_, .inr ?_⟩
    · decide +kernel
    · decide
  have hParams : q.HasParams .standard := by
    refine ⟨_, rfl, ?_⟩
    rw [Format.showsMap_iff]
    decide +kernel
  have hBound :=
    bound_nothing hForms none "/" {}
      (fun _ _ _ count => (.ofStatus 200, count + 1)) q
  exact ⟨hForms, hBody, hParams, _,
    (hBound.2.2.2 0).1 hBody hParams, rfl⟩

/-
  A body of plain text keeps a request from the handler, though
  nothing is asked for.
-/
theorem counter_refuses :
    let noted : Request Unit :=
      { head := .ofParts "POST" "/"
          [("Content-Type", "text/plain".toUTF8)]
        body := "hello".toUTF8 }
    noted.bindBody .standard .nothing =
        .error (.unsupportedType (some "text/plain")) ∧
      ∃ answer : Answer,
        counter.execute noted 0 = (.ok answer, 0) ∧
          answer.status = 400 := by
  intro noted
  have hNoted :
      noted.bindBody .standard .nothing =
        .error (.unsupportedType (some "text/plain")) := by
    have hType :
        noted.header? "Content-Type" = some "text/plain" := by
      decide +kernel
    rw [Request.bindBody, if_neg (by decide +kernel), hType]
    simp only
    rw [if_neg (by decide), if_neg (by decide)]
  exact ⟨hNoted, _, execute_of_bad_body hNoted 0, rfl⟩

end Endpoint

end Courier
