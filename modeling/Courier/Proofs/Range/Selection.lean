import Courier.Proofs.Range.Resolve
import Mathlib.Order.Interval.Set.Basic

/-
  What a range selects of content, as a set of positions. To
  resolve a range is to find the ends of this set, and there is
  nothing to find exactly when no position is selected. There
  are no more positions between the ends than the content has,
  so their number is computed in words without wrapping.

  Key definitions include:
    * `ByteRange.selected`

  Main statements:
    * `ByteRange.mem_selected_iff`
    * `ByteRange.resolve_eq_some_iff_selected`
    * `ByteRange.resolve_eq_none_iff_selected`
    * `ByteRange.toNat_span`
    * `ByteRange.resolve_intersects`
-/

namespace Courier

namespace ByteRange

/- The positions of content that are in the range. -/
def selected
    (r : ByteRange)
    (len : Nat) : Set Nat :=
  { i | r.Selects len i }

variable (r : ByteRange)

/- The positions of content lie between two bounds. -/
theorem mem_selected_iff
    {len : Nat}
    (hLen : 0 < len)
    (i : Nat) :
    i ∈ r.selected len ↔
      r.start.getD 0 ≤ i ∧ i ≤ r.lastOf len := by
  change r.Selects len i ↔ _
  unfold Selects lastOf
  cases r.start <;> cases r.stop <;> simp <;> omega

theorem selected_eq_Icc
    {len : Nat}
    (hLen : 0 < len) :
    r.selected len =
      Set.Icc (r.start.getD 0) (r.lastOf len) :=
  Set.ext (r.mem_selected_iff hLen)

/- Empty content has no positions. -/
theorem selected_zero :
    r.selected 0 = ∅ := by
  apply Set.eq_empty_of_forall_notMem
  rintro i ⟨hLen, _⟩
  exact Nat.not_lt_zero i hLen

/- What is found are the ends of what is selected. -/
theorem resolve_eq_some_iff_selected
    (len start stop : Nat) :
    r.resolve len = some (start, stop) ↔
      (r.selected len).Nonempty ∧
        r.selected len = Set.Icc start stop := by
  rw [resolve_eq_some_iff]
  constructor
  · rintro ⟨hLen, rfl, rfl, hLe⟩
    rw [r.selected_eq_Icc hLen]
    exact ⟨Set.nonempty_Icc.mpr hLe, rfl⟩
  · rintro ⟨hSome, hSelected⟩
    have hLe : start ≤ stop := by
      rwa [hSelected, Set.nonempty_Icc] at hSome
    have hLen : 0 < len := by
      rcases hSome with ⟨i, hi⟩
      exact Nat.zero_lt_of_lt hi.1
    -- A set that is not empty has one pair of ends.
    rw [r.selected_eq_Icc hLen] at hSome hSelected
    have hEnds :=
      (Set.Icc_eq_Icc_iff (Set.nonempty_Icc.mp hSome)).mp
        hSelected
    exact ⟨hLen, hEnds.1, hEnds.2, hLe⟩

/- Nothing is found where nothing is selected. -/
theorem resolve_eq_none_iff_selected
    (len : Nat) :
    r.resolve len = none ↔ r.selected len = ∅ := by
  rcases Nat.eq_zero_or_pos len with rfl | hLen
  · exact iff_of_true rfl r.selected_zero
  · rw [r.resolve_eq_none_iff hLen, r.selected_eq_Icc hLen,
      Set.Icc_eq_empty_iff, Nat.not_le]

/- The number of positions between two ends, in words. -/
theorem toNat_span
    {start stop len : Nat}
    (hLe : start ≤ stop)
    (hStop : stop < len)
    (hLen : len < UInt64.size) :
    (UInt64.ofNat stop - UInt64.ofNat start + 1).toNat =
      stop - start + 1 := by
  have hStart : (UInt64.ofNat start).toNat = start :=
    UInt64.toNat_ofNat_of_lt (by omega)
  have hEnd : (UInt64.ofNat stop).toNat = stop :=
    UInt64.toNat_ofNat_of_lt (by omega)
  have hWord : UInt64.ofNat start ≤ UInt64.ofNat stop := by
    rwa [UInt64.le_iff_toNat_le, hStart, hEnd]
  have hSpan : stop - start + 1 < UInt64.size := by
    omega
  rw [UInt64.toNat_add, UInt64.toNat_sub_of_le _ _ hWord,
    hStart, hEnd, UInt64.toNat_one]
  exact Nat.mod_eq_of_lt hSpan

/-
  To resolve a range is to intersect it with the content. The
  ends that are found are those of the positions that lie in
  both, and none are found exactly when no position does. The
  ends lie in the content, and the number of positions from the
  one to the other is at most the length, also when it is
  computed in words. The whole of some content resolves to its
  first and its last position.
-/
theorem resolve_intersects
    (len : Nat) :
    (∀ start stop,
      r.resolve len = some (start, stop) ↔
        (r.selected len).Nonempty ∧
          r.selected len = Set.Icc start stop) ∧
    (r.resolve len = none ↔ r.selected len = ∅) ∧
    (∀ start stop,
      r.resolve len = some (start, stop) →
        start ≤ stop ∧ stop < len ∧ stop - start + 1 ≤ len ∧
          (len < UInt64.size →
            (UInt64.ofNat stop - UInt64.ofNat start + 1).toNat =
              stop - start + 1)) ∧
    (full len).resolve len =
      if len = 0 then none else some (0, len - 1) := by
  refine ⟨r.resolve_eq_some_iff_selected len,
    r.resolve_eq_none_iff_selected len, ?_, ?_⟩
  · intro start stop hResolve
    rcases (r.resolve_eq_some_iff len start stop).mp hResolve with
      ⟨hLen, -, hLast, hLe⟩
    have hStop : stop < len := hLast ▸ r.lastOf_lt hLen
    exact ⟨hLe, hStop, by omega, toNat_span hLe hStop⟩
  · rcases Nat.eq_zero_or_pos len with rfl | hLen
    · rfl
    · rw [if_neg (Nat.ne_of_gt hLen), resolve_eq_some_iff]
      exact ⟨hLen, rfl, by simp [lastOf, full],
        Nat.zero_le _⟩

end ByteRange

end Courier
