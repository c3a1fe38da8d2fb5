import Courier.Proofs.Exchange.Steps
import Courier.Proofs.Header.Copy

/-
  The computations that only change headers, as the lists of
  changes that they make. Two such computations are compared by
  their lists, and a list says by itself which names it leaves
  alone.

  Key definitions include:
    * `HeaderEdit.name`
    * `Exchange.EditsOnly`
    * `Exchange.copyEdits`
    * `Exchange.cookieEdits`
    * `Exchange.Dated`

  Main statements:
    * `Exchange.EditsOnly.getAll_applyEdits`
    * `Exchange.perform_copyHeaders`
    * `Exchange.applyEdits_copyEdits`
    * `Exchange.perform_setCookies`
-/

namespace Courier

/- The name that a change is about. -/
def HeaderEdit.name : HeaderEdit → String
  | .set name _ | .add name _ | .del name => name

namespace Exchange

variable {τ : Type}

------------------------------------------------------------
-- Names that are left alone
------------------------------------------------------------

/- A change is seen under its own name only. -/
theorem getAll_applyEdit_of_ne
    {change : HeaderEdit}
    {name : String}
    (hName : name.toLower ≠ change.name.toLower)
    (w : WireHeaders) :
    (applyEdit w change).getAll name = w.getAll name := by
  cases change with
  | set other value =>
      exact (w.getAll_set other value name).trans
        (if_neg fun h => hName h.2)
  | add other value =>
      exact (w.getAll_add other value name).trans
        (if_neg fun h => hName h.2)
  | del other =>
      exact (w.getAll_del other name).trans (if_neg hName)

/- Changes of other names leave what is under a name alone. -/
theorem getAll_applyEdits_of_forall_ne
    {edits : List HeaderEdit}
    {name : String}
    (hNames :
      ∀ change ∈ edits, name.toLower ≠ change.name.toLower)
    (w : WireHeaders) :
    (applyEdits w edits).getAll name = w.getAll name := by
  induction edits generalizing w with
  | nil => rfl
  | cons change rest ih =>
      have hRest :
          ∀ change ∈ rest,
            name.toLower ≠ change.name.toLower :=
        fun c hc => hNames c (List.mem_cons_of_mem _ hc)
      rw [applyEdits_cons, ih hRest,
        getAll_applyEdit_of_ne (hNames change (by simp))]

/- Changes that are all about these names. -/
def EditsOnly
    (names : List String)
    (edits : List HeaderEdit) : Prop :=
  ∀ change ∈ edits, change.name ∈ names

theorem EditsOnly.append
    {names : List String}
    {edits later : List HeaderEdit}
    (hEdits : EditsOnly names edits)
    (hLater : EditsOnly names later) :
    EditsOnly names (edits ++ later) := by
  intro change hChange
  rcases List.mem_append.mp hChange with hOld | hNew
  · exact hEdits change hOld
  · exact hLater change hNew

theorem EditsOnly.mono
    {names more : List String}
    {edits : List HeaderEdit}
    (hEdits : EditsOnly names edits)
    (hNames : names ⊆ more) :
    EditsOnly more edits :=
  fun change hChange => hNames (hEdits change hChange)

/- What is under any other name stays. -/
theorem EditsOnly.getAll_applyEdits
    {names : List String}
    {edits : List HeaderEdit}
    (hEdits : EditsOnly names edits)
    {name : String}
    (hName : name.toLower ∉ names.map String.toLower)
    (w : WireHeaders) :
    (applyEdits w edits).getAll name = w.getAll name := by
  apply getAll_applyEdits_of_forall_ne
  intro change hChange hSame
  apply hName
  rw [hSame]
  exact List.mem_map_of_mem (hEdits change hChange)

------------------------------------------------------------
-- Single changes
------------------------------------------------------------

theorem edited_append
    (edits later : List HeaderEdit)
    (x : Exchange τ) :
    edited (edits ++ later) x =
      edited later (edited edits x) := by
  simp [edited]

@[simp] theorem perform_setHeader
    (name value : String)
    (x : Exchange τ) :
    perform (setHeader name value) x =
      ((), edited [.set name value] x) := rfl

@[simp] theorem perform_setHeader?
    (name : String)
    (value : Option String)
    (x : Exchange τ) :
    perform (setHeader? name value) x =
      ((), edited (value.toList.map (.set name)) x) := by
  cases value <;> rfl

@[simp] theorem perform_delHeader
    (name : String)
    (x : Exchange τ) :
    perform (delHeader name) x =
      ((), edited [.del name] x) := rfl

------------------------------------------------------------
-- Copying
------------------------------------------------------------

/- The changes that copy the values of a name. -/
def entryEdits
    (name : String) : List String → List HeaderEdit
  | [] => []
  | [value] => [.del name, .set name value]
  | values => .del name :: values.map (.add name)

/- The changes that copy the headers of a response. -/
def copyEdits
    (h : HeaderList) : List HeaderEdit :=
  h.entries.flatMap fun entry =>
    entryEdits entry.name entry.values

/- Copying an entry makes its changes, in an exchange. -/
theorem copyEntry_eq_edited
    (entry : HeaderEntry)
    (x : Exchange τ) :
    HeaderList.copyEntry x entry =
      edited (entryEdits entry.name entry.values) x := by
  rcases entry with ⟨name, values⟩
  rcases values with _ | ⟨value, _ | ⟨second, rest⟩⟩
  · rfl
  · rfl
  · simp only [HeaderList.copyEntry, entryEdits, edited,
      List.foldl_cons, List.foldl_map]
    rfl

/- Copying an entry makes its changes, in a message. -/
theorem copyEntry_eq_applyEdits
    (entry : HeaderEntry)
    (w : WireHeaders) :
    HeaderList.copyEntry w entry =
      applyEdits w (entryEdits entry.name entry.values) := by
  rcases entry with ⟨name, values⟩
  rcases values with _ | ⟨value, _ | ⟨second, rest⟩⟩
  · rfl
  · rfl
  · simp only [HeaderList.copyEntry, entryEdits, applyEdits,
      List.foldl_cons, List.foldl_map]
    rfl

theorem perform_copyHeaders
    (h : HeaderList)
    (x : Exchange τ) :
    perform (copyHeaders h) x =
      ((), edited (copyEdits h) x) := by
  change ((), h.entries.foldl HeaderList.copyEntry x) = _
  unfold copyEdits
  induction h.entries generalizing x with
  | nil => rfl
  | cons entry rest ih =>
      rw [List.foldl_cons, ih, List.flatMap_cons,
        edited_append, copyEntry_eq_edited]

/- The changes that copy headers copy them into a message. -/
theorem applyEdits_copyEdits
    (h : HeaderList)
    (w : WireHeaders) :
    applyEdits w (copyEdits h) = h.copyInto w := by
  unfold copyEdits HeaderList.copyInto
  induction h.entries generalizing w with
  | nil => rfl
  | cons entry rest ih =>
      rw [List.foldl_cons, ← ih, List.flatMap_cons,
        applyEdits_append, copyEntry_eq_applyEdits]

------------------------------------------------------------
-- Cookies
------------------------------------------------------------

/- The changes that append cookies, up to the first failure. -/
def cookieEdits : List Cookie → List HeaderEdit
  | [] => []
  | cookie :: rest =>
      match cookie.render? with
      | none => []
      | some value =>
          .add "Set-Cookie" value :: cookieEdits rest

/- Only one name is changed by appending cookies. -/
theorem editsOnly_cookieEdits
    (cookies : List Cookie) :
    EditsOnly ["Set-Cookie"] (cookieEdits cookies) := by
  induction cookies with
  | nil => simp [EditsOnly, cookieEdits]
  | cons cookie rest ih =>
      unfold cookieEdits
      cases cookie.render? with
      | none => simp [EditsOnly]
      | some value =>
          simpa [EditsOnly, HeaderEdit.name] using ih

/- Every expiry date among cookies can be written. -/
def Dated
    (cookies : List Cookie) : Prop :=
  ∀ c ∈ cookies, c.render?.isSome

instance
    (cookies : List Cookie) :
    Decidable (Dated cookies) := by
  unfold Dated
  infer_instance

/- A date can be written from 1970 up to the year 9999. -/
theorem dated_iff
    (cookies : List Cookie) :
    Dated cookies ↔
      ∀ c ∈ cookies, ∀ t ∈ c.expires,
        0 ≤ t.seconds ∧ t.seconds < Calendar.endOfYears := by
  refine forall₂_congr fun c _ => ?_
  cases hExpires : c.expires with
  | none =>
      simp [Cookie.render?, Cookie.renderWith?, Cookie.pieces?,
        hExpires]
  | some t =>
      simp [Cookie.render?, Cookie.renderWith?, Cookie.pieces?,
        hExpires, Calendar.httpDate?]

/- Cookies are appended when all of them can be dated. -/
theorem perform_setCookies
    (cookies : List Cookie)
    (x : Exchange τ) :
    perform (setCookies cookies) x =
      (if Dated cookies then .ok ()
        else .error .dateOutOfRange,
      edited (cookieEdits cookies) x) := by
  unfold Dated
  induction cookies generalizing x with
  | nil => simp [setCookies, cookieEdits, edited]
  | cons cookie rest ih =>
      unfold setCookies setCookie cookieEdits
      cases hRender : cookie.render? with
      | none => simp [hRender, edited]
      | some value =>
          change perform (setCookies rest)
            (editHeaders (.add "Set-Cookie" value) x) = _
          rw [ih]
          simp [hRender, edited]

end Exchange

end Courier
