import Courier.Encoding.Selection

/-
  Which coding is selected, said without the search: the one
  that is asked for, or the first in order of preference that is
  admitted. A coding is admitted when its token stands somewhere
  in what the client accepts and the body is large enough.

  Key definitions include:
    * `EncodingRules.Admits`
    * `EncodingRules.Picks`

  Main statements:
    * `EncodingRules.select_eq_some_iff`
-/

namespace Courier.EncodingRules

variable {rules : EncodingRules}

/- The token occurs in the text, and the size is reached. -/
structure Admits
    (rules : EncodingRules)
    (accept : String)
    (size : Nat)
    (coding : Coding) : Prop where
  occurs : coding.token.toList <:+: accept.toList
  minSize_le : rules.minSize coding ≤ size

/- The content type contains an entry of the list. -/
def Compressible
    (rules : EncodingRules)
    (contentType : String) : Prop :=
  ∃ entry ∈ rules.compressible,
    entry.toList <:+: contentType.toList

/-
  The coding that a directive leads to. A coding that is asked
  for must be admitted. Without one, the content type must be
  compressible and none that is preferred may be admitted.
-/
def Picks
    (rules : EncodingRules)
    (contentType accept : String)
    (size : Nat)
    (encoding : Encoding)
    (coding : Coding) : Prop :=
  rules.Admits accept size coding ∧
    match encoding with
    | .none => False
    | .only asked => coding = asked
    | .auto =>
        rules.Compressible contentType ∧
          ∃ preferred rest,
            Coding.preference = preferred ++ coding :: rest ∧
              ∀ other ∈ preferred,
                ¬ rules.Admits accept size other

theorem admits_iff
    {accept : String}
    {size : Nat}
    {coding : Coding} :
    rules.admits accept size coding = true ↔
      rules.Admits accept size coding := by
  rw [admits, Bool.and_eq_true, decide_eq_true_eq,
    Text.contains, Text.occursIn_iff]
  exact ⟨fun ⟨hOccurs, hSize⟩ => ⟨hOccurs, hSize⟩,
    fun hAdmits => ⟨hAdmits.occurs, hAdmits.minSize_le⟩⟩

theorem isCompressible_iff
    {contentType : String} :
    rules.isCompressible contentType = true ↔
      rules.Compressible contentType := by
  simp only [isCompressible, List.any_eq_true, Text.contains,
    Text.occursIn_iff, Compressible]

/- What is not named is the empty text. -/
theorem select_eq_some_iff
    {encoding : Encoding}
    {contentType accept : Option String}
    {size : Nat}
    {coding : Coding} :
    rules.select encoding contentType accept size =
        some coding ↔
      rules.Picks (contentType.getD "") (accept.getD "") size
        encoding coding := by
  unfold select Picks
  cases encoding with
  | none => simp
  | only asked =>
      simp only [← admits_iff]
      by_cases hAdmits :
          rules.admits (accept.getD "") size asked = true
      · rw [if_pos hAdmits, Option.some.injEq]
        constructor
        · rintro rfl
          exact ⟨hAdmits, rfl⟩
        · exact fun hPicks => hPicks.2.symm
      · rw [if_neg hAdmits]
        constructor
        · intro hNone
          cases hNone
        · rintro ⟨hCoding, rfl⟩
          exact absurd hCoding hAdmits
  | auto =>
      simp only [← isCompressible_iff, ← admits_iff]
      by_cases hType :
          rules.isCompressible (contentType.getD "") = true
      · rw [if_pos hType, List.find?_eq_some_iff_append]
        simp [hType]
      · rw [if_neg hType]
        simp [hType]

end Courier.EncodingRules
