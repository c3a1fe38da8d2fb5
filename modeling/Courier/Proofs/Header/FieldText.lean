import Courier.Delivery.Ranged

/-
  Header values that a message can always carry: those put
  together from fixed text and numbers.

  Main statements:
    * `Header.isFieldText_append`
    * `Header.isFieldChar_of_isTokenChar`
    * `Header.isFieldText_repr`
    * `Header.isFieldText_intercalate`
    * `Header.isFieldText_contentRange`
    * `Header.isFieldText_unsatisfied`
-/

namespace Courier.Header

@[simp] theorem isFieldText_append
    (s t : String) :
    isFieldText (s ++ t) =
      (isFieldText s && isFieldText t) := by
  simp [isFieldText]

/- What stands between a space and a tilde is visible. -/
theorem isFieldChar_of_between
    {c : Char}
    (hSpace : 32 ≤ c.toNat)
    (hTilde : c.toNat < 127) :
    isFieldChar c := by
  have hDelete : c.toNat ≠ 127 := Nat.ne_of_lt hTilde
  simp [isFieldChar, hSpace, hDelete]

/- A decimal digit is visible. -/
theorem isFieldChar_of_isDigit
    {c : Char}
    (hDigit : c.isDigit) :
    isFieldChar c := by
  simp only [Char.isDigit, Bool.and_eq_true,
    decide_eq_true_eq, UInt32.le_iff_toNat_le] at hDigit
  change 48 ≤ c.toNat ∧ c.toNat ≤ 57 at hDigit
  exact isFieldChar_of_between (by omega) (by omega)

/- A letter is visible. -/
theorem isFieldChar_of_isAlpha
    {c : Char}
    (hAlpha : c.isAlpha) :
    isFieldChar c := by
  rcases Bool.or_eq_true_iff.mp hAlpha with hUpper | hLower
  · have hCode : 65 ≤ c.toNat ∧ c.toNat ≤ 90 :=
      of_decide_eq_true hUpper
    exact isFieldChar_of_between (by omega) (by omega)
  · have hCode := Bool.and_eq_true_iff.mp hLower
    have hLeast : 97 ≤ c.toNat := of_decide_eq_true hCode.1
    have hMost : c.toNat ≤ 122 := of_decide_eq_true hCode.2
    exact isFieldChar_of_between (by omega) (by omega)

/- A character of a token is visible. -/
theorem isFieldChar_of_isTokenChar
    {c : Char}
    (hToken : isTokenChar c) :
    isFieldChar c := by
  rw [isTokenChar, Bool.or_eq_true, decide_eq_true_eq] at hToken
  rcases hToken with hAlphanum | hMark
  · exact (Bool.or_eq_true_iff.mp hAlphanum).elim
      isFieldChar_of_isAlpha isFieldChar_of_isDigit
  · have hMarks :
        "!#$%&'*+-.^_`|~".toList.all isFieldChar := by
      decide
    exact List.all_eq_true.mp hMarks c hMark

@[simp] theorem isFieldText_repr
    (n : Nat) :
    isFieldText n.repr = true := by
  simp only [isFieldText, Nat.toList_repr, List.all_eq_true]
  intro c hc
  exact isFieldChar_of_isDigit
    (Nat.isDigit_of_mem_toDigits (by decide) (by decide) hc)

/- Pieces put together can be carried when all of them can. -/
theorem isFieldText_intercalate
    {separator : String}
    {pieces : List String}
    (hSeparator : isFieldText separator)
    (hPieces : ∀ p ∈ pieces, isFieldText p) :
    isFieldText (separator.intercalate pieces) := by
  induction pieces with
  | nil =>
      rw [String.intercalate_nil]
      decide
  | cons first rest ih =>
      have hFirst := hPieces first List.mem_cons_self
      have hRest :=
        ih fun p hp => hPieces p (List.mem_cons_of_mem _ hp)
      cases rest with
      | nil => simpa using hFirst
      | cons second rest =>
          rw [String.intercalate_cons_cons]
          simp [hFirst, hSeparator, hRest]

/- Fixed text around numbers. -/
@[simp] theorem isFieldText_contentRange
    (start stop length : Nat) :
    isFieldText (Ranged.contentRange start stop length) =
      true := by
  have hBytes : isFieldText "bytes " := by decide
  have hDash : isFieldText "-" := by decide
  have hSlash : isFieldText "/" := by decide
  simp [Ranged.contentRange, hBytes, hDash, hSlash]

@[simp] theorem isFieldText_unsatisfied
    (length : Nat) :
    isFieldText (Ranged.unsatisfied length) = true := by
  have hBytes : isFieldText "bytes */" := by decide
  simp [Ranged.unsatisfied, hBytes]

end Courier.Header
