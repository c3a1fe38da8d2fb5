import Courier.Proofs.Delivery.Sends
import Courier.Proofs.Header.FieldText
import Courier.Proofs.Text.Digits

/-
  What the heads of streamed responses say about the body: the
  length and the range of a part that follows, nothing when the
  request is refused, and every other header as it was.

  Main statements:
    * `Ranged.getAll_contentLength_partEdits`
    * `Ranged.getAll_contentRange_partEdits`
    * `Ranged.getAll_refusalEdits`
    * `Ranged.getAll_contentRange_refusalEdits`
    * `Ranged.contentRange_inj`
    * `Ranged.contentRange_ne_unsatisfied`
-/

namespace Courier.Ranged

open Exchange Header Numeral

------------------------------------------------------------
-- Names
------------------------------------------------------------

/- The names that every streamed response writes. -/
def streamNames : List String :=
  ["Accept-Ranges", "Connection", "Keep-Alive", "Content-Type"]

theorem editsOnly_streamEdits
    (contentType : Option String)
    (settings : StreamSettings) :
    EditsOnly streamNames
      (streamEdits contentType settings) := by
  intro change hChange
  cases contentType with
  | none =>
      simp [streamEdits] at hChange
      rcases hChange with rfl | rfl | rfl <;>
        simp [HeaderEdit.name, streamNames]
  | some value =>
      simp [streamEdits] at hChange
      rcases hChange with rfl | rfl | rfl | rfl <;>
        simp [HeaderEdit.name, streamNames]

theorem editsOnly_partEdits
    (start stop length : Nat) :
    EditsOnly ["Content-Length", "Content-Range"]
      (partEdits start stop length) := by
  simp [EditsOnly, partEdits, HeaderEdit.name]

theorem editsOnly_refusalEdits
    (length : Option Nat) :
    EditsOnly bodyHeaders (refusalEdits length) := by
  intro change hChange
  cases length with
  | none =>
      simp [refusalEdits, bodyHeaders] at hChange
      rcases hChange with rfl | rfl | rfl | rfl <;>
        simp [HeaderEdit.name, bodyHeaders]
  | some n =>
      simp [refusalEdits, bodyHeaders] at hChange
      rcases hChange with rfl | rfl | rfl | rfl | rfl <;>
        simp [HeaderEdit.name, bodyHeaders]

------------------------------------------------------------
-- Lengths and ranges
------------------------------------------------------------

/- The two names under which a body is measured. -/
theorem contentLength_ne_contentRange :
    "Content-Length".toLower ≠ "Content-Range".toLower := by
  decide +kernel

theorem isToken_contentLength :
    isToken "Content-Length" = true := by
  decide +kernel

theorem isToken_contentRange :
    isToken "Content-Range" = true := by
  decide +kernel

/- A part announces its length. -/
theorem getAll_contentLength_partEdits
    (start stop length : Nat)
    (w : WireHeaders) :
    (applyEdits w (partEdits start stop length)).getAll
        "Content-Length" =
      [toString (stop - start + 1)] := by
  simp [partEdits, applyEdit, WireHeaders.getAll_set,
    isSendable, isToken_contentLength,
    contentLength_ne_contentRange]

/- A length that is written last is the one announced. -/
theorem getAll_contentLength_append
    {length : String}
    (edits : List HeaderEdit)
    (hText : isFieldText length)
    (w : WireHeaders) :
    (applyEdits w
        (edits ++ [.set "Content-Length" length])).getAll
        "Content-Length" =
      [length] := by
  simp [applyEdit, WireHeaders.getAll_set, isSendable,
    isToken_contentLength, hText]

/- Content without bytes has no range. -/
theorem getAll_contentRange_noContent
    (contentType : Option String)
    (settings : StreamSettings)
    (length : String)
    (w : WireHeaders) :
    (applyEdits w
        (streamEdits contentType settings
          ++ [.set "Content-Length" length])).getAll
        "Content-Range" =
      w.getAll "Content-Range" := by
  have hName :
      "Content-Range".toLower ∉
        streamNames.map String.toLower := by
    decide +kernel
  rw [applyEdits_append,
    getAll_applyEdits_of_forall_ne (by
      simpa [HeaderEdit.name] using
        contentLength_ne_contentRange.symm),
    (editsOnly_streamEdits contentType
      settings).getAll_applyEdits hName]

/- A part announces where it stands in the content. -/
theorem getAll_contentRange_partEdits
    (start stop length : Nat)
    (w : WireHeaders) :
    (applyEdits w (partEdits start stop length)).getAll
        "Content-Range" =
      [contentRange start stop length] := by
  simp [partEdits, applyEdit, WireHeaders.getAll_set,
    isSendable, isToken_contentRange]

/- Deleting names one by one deletes each of them. -/
theorem getAll_applyEdits_map_del
    {names : List String}
    {name : String}
    (hName : name.toLower ∈ names.map String.toLower)
    (w : WireHeaders) :
    (applyEdits w (names.map .del)).getAll name = [] := by
  induction names generalizing w with
  | nil => simp at hName
  | cons first rest ih =>
      rw [List.map_cons, applyEdits_cons]
      by_cases hRest : name.toLower ∈ rest.map String.toLower
      · exact ih hRest _
      · have hFirst : name.toLower = first.toLower := by
          rw [List.map_cons, List.mem_cons] at hName
          exact hName.resolve_right hRest
        have hOnly : EditsOnly rest (rest.map .del) := by
          simp [EditsOnly, HeaderEdit.name]
        rw [hOnly.getAll_applyEdits hRest]
        exact (w.getAll_del first name).trans (if_pos hFirst)

/- A refusal says nothing of a body that is not sent. -/
theorem getAll_refusalEdits
    {name : String}
    (hName : name.toLower ∈ bodyHeaders.map String.toLower)
    (hRange : name.toLower ≠ "Content-Range".toLower)
    (length : Option Nat)
    (w : WireHeaders) :
    (applyEdits w (refusalEdits length)).getAll name = [] := by
  rw [refusalEdits, applyEdits_append,
    getAll_applyEdits_of_forall_ne,
    getAll_applyEdits_map_del hName]
  intro change hChange
  cases length <;> simp at hChange
  rw [hChange]
  exact hRange

/- A refusal may say how long the content is. -/
theorem getAll_contentRange_refusalEdits
    (length : Option Nat)
    (w : WireHeaders) :
    (applyEdits w (refusalEdits length)).getAll
        "Content-Range" =
      (length.map unsatisfied).toList := by
  have hName :
      "Content-Range".toLower ∈
        bodyHeaders.map String.toLower := by
    simp [bodyHeaders]
  have hDel := getAll_applyEdits_map_del hName w
  rw [refusalEdits, applyEdits_append]
  cases length with
  | none => exact hDel
  | some n =>
      simp [applyEdit, WireHeaders.getAll_set, isSendable,
        isToken_contentRange]

------------------------------------------------------------
-- Written ranges
------------------------------------------------------------

theorem toList_contentRange
    (start stop length : Nat) :
    (contentRange start stop length).toList =
      "bytes ".toList ++ (Nat.toDigits 10 start ++
        '-' :: (Nat.toDigits 10 stop ++
          '/' :: Nat.toDigits 10 length)) := by
  simp [contentRange]

/- A written range tells its three numbers. -/
theorem contentRange_inj
    {start stop length start' stop' length' : Nat}
    (hText :
      contentRange start stop length =
        contentRange start' stop' length') :
    start = start' ∧ stop = stop' ∧ length = length' := by
  have hNumber {m n : Nat} :
      Nat.toDigits 10 m = Nat.toDigits 10 n → m = n :=
    toDigits_inj (by decide) (by decide)
  have hList := congrArg String.toList hText
  rw [toList_contentRange, toList_contentRange] at hList
  have hNumbers := List.append_cancel_left hList
  have hDash := congrArg (Text.cutFirst '-') hNumbers
  rw [Text.cutFirst_append_cons
      (not_mem_toDigits (by decide) start),
    Text.cutFirst_append_cons
      (not_mem_toDigits (by decide) start')] at hDash
  rcases Prod.mk.inj hDash with ⟨hStart, hRest⟩
  have hSlash :=
    congrArg (Text.cutFirst '/') (Option.some.inj hRest)
  rw [Text.cutFirst_append_cons
      (not_mem_toDigits (by decide) stop),
    Text.cutFirst_append_cons
      (not_mem_toDigits (by decide) stop')] at hSlash
  rcases Prod.mk.inj hSlash with ⟨hStop, hLength⟩
  exact ⟨hNumber hStart, hNumber hStop,
    hNumber (Option.some.inj hLength)⟩

/- No part is written like a range that selects nothing. -/
theorem contentRange_ne_unsatisfied
    (start stop length content : Nat) :
    contentRange start stop length ≠ unsatisfied content := by
  intro hText
  have hList := congrArg String.toList hText
  have hUnsatisfied :
      (unsatisfied content).toList =
        "bytes ".toList ++
          '*' :: '/' :: Nat.toDigits 10 content := by
    simp [unsatisfied]
  rw [toList_contentRange, hUnsatisfied] at hList
  have hNumbers := List.append_cancel_left hList
  have hStar : '*' ∉ Nat.toDigits 10 start :=
    not_mem_toDigits (by decide) start
  cases hDigits : Nat.toDigits 10 start with
  | nil => exact absurd hDigits Nat.toDigits_ne_nil
  | cons first rest =>
      rw [hDigits] at hNumbers hStar
      exact hStar (by simp [(List.cons.inj hNumbers).1])

end Courier.Ranged
