import Courier.Delivery.Ranged

/-
  What a range comes to for content of a given length: the end
  is cut to the last byte, and a range that comes to anything
  lies within the content.

  Main statements:
    * `ByteRange.resolve_eq_some_iff`
    * `ByteRange.resolve_eq_none_iff`
    * `Ranged.verdict_of_range`
    * `Ranged.verdict_of_whole`
    * `Ranged.le_and_lt_of_verdict_eq_part`
-/

namespace Courier

namespace ByteRange

/- The last byte that a range asks for and content has. -/
def lastOf
    (r : ByteRange)
    (len : Nat) : Nat :=
  (r.stop.map (min · (len - 1))).getD (len - 1)

theorem lastOf_lt
    (r : ByteRange)
    {len : Nat}
    (hLen : 0 < len) :
    r.lastOf len < len := by
  unfold lastOf
  cases r.stop with
  | none =>
      simp
      omega
  | some stop =>
      simp
      omega

theorem resolve_eq_some_iff
    (r : ByteRange)
    (len start stop : Nat) :
    r.resolve len = some (start, stop) ↔
      0 < len ∧ r.start.getD 0 = start ∧
        r.lastOf len = stop ∧ start ≤ stop := by
  unfold resolve lastOf
  by_cases hLen : len = 0
  · simp [hLen]
  · rw [if_neg hLen]
    simp only [Option.ite_none_right_eq_some,
      Option.some.injEq, Prod.mk.injEq]
    constructor
    · rintro ⟨hLe, rfl, rfl⟩
      exact ⟨Nat.pos_of_ne_zero hLen, rfl, rfl, hLe⟩
    · rintro ⟨_, rfl, rfl, hLe⟩
      exact ⟨hLe, rfl, rfl⟩

theorem resolve_eq_none_iff
    (r : ByteRange)
    {len : Nat}
    (hLen : 0 < len) :
    r.resolve len = none ↔
      r.lastOf len < r.start.getD 0 := by
  unfold resolve lastOf
  rw [if_neg (Nat.pos_iff_ne_zero.mp hLen)]
  simp

end ByteRange

namespace Ranged

/- The verdict on a range that is read. -/
theorem verdict_of_range
    {length chunkSize : Nat}
    {rangeHeader : Option String}
    {range : ByteRange}
    (hHeader :
      ByteRange.ofHeader rangeHeader = .ok (some range)) :
    verdict length chunkSize rangeHeader =
      if chunkSize = 0 then .zeroChunk
      else if length = 0 then .noContent
      else if length ≤ range.start.getD 0 then .beyond
      else if range.lastOf length < range.start.getD 0 then
        .unsatisfiable
      else
        .part (range.start.getD 0) (range.lastOf length)
          true := by
  unfold verdict
  simp only [hHeader, Option.getD_some, Option.isSome_some]
  by_cases hChunk : chunkSize = 0
  · simp [hChunk]
  by_cases hLength : length = 0
  · simp [hChunk, hLength]
  have hPos : 0 < length := Nat.pos_of_ne_zero hLength
  have hBeyond :
      range.start.any (length ≤ ·) =
        decide (length ≤ range.start.getD 0) := by
    cases range.start with
    | none => simp [hLength]
    | some start => rfl
  simp only [hChunk, hLength, if_false, hBeyond,
    decide_eq_true_eq]
  by_cases hStart : length ≤ range.start.getD 0
  · rw [if_pos hStart, if_pos hStart]
  rw [if_neg hStart, if_neg hStart]
  by_cases hBefore :
      range.lastOf length < range.start.getD 0
  · rw [if_pos hBefore,
      (range.resolve_eq_none_iff hPos).mpr hBefore]
  · rw [if_neg hBefore,
      (range.resolve_eq_some_iff _ _ _).mpr
        ⟨hPos, rfl, rfl, Nat.le_of_not_lt hBefore⟩]

/- The verdict when no range is asked for. -/
theorem verdict_of_whole
    {length chunkSize : Nat}
    {rangeHeader : Option String}
    (hHeader : ByteRange.ofHeader rangeHeader = .ok none) :
    verdict length chunkSize rangeHeader =
      if chunkSize = 0 then .zeroChunk
      else if length = 0 then .noContent
      else .part 0 (length - 1) false := by
  unfold verdict
  simp only [hHeader, Option.getD_none, Option.isSome_none]
  by_cases hChunk : chunkSize = 0
  · simp [hChunk]
  by_cases hLength : length = 0
  · simp [hChunk, hLength]
  simp [hChunk, hLength, ByteRange.full, ByteRange.resolve]

/- A part lies within the content. -/
theorem le_and_lt_of_verdict_eq_part
    {length chunkSize : Nat}
    {rangeHeader : Option String}
    {start stop : Nat}
    {asked : Bool}
    (hVerdict :
      verdict length chunkSize rangeHeader =
        .part start stop asked) :
    0 < chunkSize ∧ start ≤ stop ∧ stop < length := by
  cases hHeader : ByteRange.ofHeader rangeHeader with
  | error e => cases e <;> simp [verdict, hHeader] at hVerdict
  | ok requested =>
      cases requested with
      | none =>
          rw [verdict_of_whole hHeader] at hVerdict
          split at hVerdict
          · cases hVerdict
          split at hVerdict
          · cases hVerdict
          cases hVerdict
          omega
      | some range =>
          rw [verdict_of_range hHeader] at hVerdict
          split at hVerdict
          · cases hVerdict
          split at hVerdict
          · cases hVerdict
          split at hVerdict
          · cases hVerdict
          split at hVerdict
          · cases hVerdict
          cases hVerdict
          have hLast := range.lastOf_lt (by omega : 0 < length)
          omega

end Ranged

end Courier
