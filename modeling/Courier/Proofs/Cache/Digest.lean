import Courier.Cache.Tag
import Courier.Proofs.Text.Digits
import Mathlib.Logic.ExistsUnique
import Mathlib.Tactic.ByContra

/-
  The digest tells apart byte strings that differ in one place.
  A step of the digest loses nothing: neither the state nor the
  byte that it takes in, so that a difference once made is
  carried through whatever bytes follow.

  Key definitions include:
    * `Tag.DifferOnce`

  Main statements:
    * `Tag.digest_eq_foldl`
    * `Tag.foldl_absorb_inj`
    * `Tag.digest_ne_of_differOnce`
    * `Tag.ofBody_ne_of_differOnce`
-/

namespace Courier.Tag

------------------------------------------------------------
-- One step
------------------------------------------------------------

/- The word that the multiplier takes back to one. -/
def primeInverse : UInt64 :=
  0xce965057aff6957b

/- Multiplying by the prime loses nothing. -/
theorem mul_prime_inj
    {x y : UInt64}
    (hProduct : x * prime = y * prime) :
    x = y := by
  have hOne : prime * primeInverse = 1 := by decide
  calc
    x = x * prime * primeInverse := by
      rw [UInt64.mul_assoc, hOne, UInt64.mul_one]
    _ = y * prime * primeInverse := by rw [hProduct]
    _ = y := by rw [UInt64.mul_assoc, hOne, UInt64.mul_one]

/- A step tells the digest that it was taken from. -/
theorem absorb_left_inj
    {hash other : UInt64}
    {b : UInt8}
    (hStep : absorb hash b = absorb other b) :
    hash = other :=
  (UInt64.xor_left_inj b.toUInt64).mp (mul_prime_inj hStep)

/- A step tells the byte that it took in. -/
theorem absorb_right_inj
    {hash : UInt64}
    {b c : UInt8}
    (hStep : absorb hash b = absorb hash c) :
    b = c :=
  UInt8.toUInt64_inj.mp
    ((UInt64.xor_right_inj hash).mp (mul_prime_inj hStep))

------------------------------------------------------------
-- All bytes
------------------------------------------------------------

/- The bytes of an array, in order. -/
def bytes
    (data : ByteArray) : List UInt8 :=
  data.data.toList

/- Taking in the bytes from a position on is a fold of them. -/
theorem absorbFrom_eq_foldl
    (data : ByteArray)
    (i : Nat)
    (hash : UInt64) :
    absorbFrom data i hash =
      ((bytes data).drop i).foldl absorb hash := by
  fun_induction absorbFrom data i hash with
  | case1 i hash hi ih =>
      have hDrop :
          (bytes data).drop i =
            data[i] :: (bytes data).drop (i + 1) := by
        exact List.drop_eq_getElem_cons _
      rw [ih, hDrop, List.foldl_cons]
  | case2 i hash hi =>
      rw [List.drop_of_length_le, List.foldl_nil]
      exact Nat.le_of_not_lt hi

/- The digest takes in the bytes one after another. -/
theorem digest_eq_foldl
    (data : ByteArray) :
    digest data = (bytes data).foldl absorb offsetBasis := by
  rw [digest, absorbFrom_eq_foldl, List.drop_zero]

/- What was different stays so, whatever bytes follow. -/
theorem foldl_absorb_inj
    {bs : List UInt8}
    {hash other : UInt64}
    (hFold : bs.foldl absorb hash = bs.foldl absorb other) :
    hash = other := by
  induction bs generalizing hash other with
  | nil => exact hFold
  | cons b rest ih => exact absorb_left_inj (ih hFold)

/- Two byte strings of one length that differ in one place. -/
structure DifferOnce
    (a b : ByteArray) : Prop where
  size_eq : a.size = b.size
  unique : ∃! i : Nat, a[i]? ≠ b[i]?

/- A place of an array and of its list of bytes. -/
theorem getElem?_bytes
    (data : ByteArray)
    (i : Nat) :
    (bytes data)[i]? = data[i]? := by
  by_cases hi : i < data.size
  · rw [getElem?_pos data i hi]
    exact List.getElem?_eq_getElem hi
  · rw [getElem?_neg data i hi]
    exact List.getElem?_eq_none (Nat.le_of_not_lt hi)

/- The bytes before and after the place are the same. -/
theorem DifferOnce.exists_split
    {a b : ByteArray}
    (hDiffer : DifferOnce a b) :
    ∃ before x y after,
      bytes a = before ++ x :: after ∧
        bytes b = before ++ y :: after ∧ x ≠ y := by
  rcases hDiffer.unique with ⟨k, hHere, hOnly⟩
  have hSame (i : Nat) (hi : i ≠ k) :
      (bytes a)[i]? = (bytes b)[i]? := by
    rw [getElem?_bytes, getElem?_bytes]
    by_contra hOther
    exact hi (hOnly i hOther)
  have hLength : (bytes a).length = (bytes b).length :=
    hDiffer.size_eq
  have hk : k < (bytes a).length := by
    by_contra hBeyond
    rw [← getElem?_bytes, ← getElem?_bytes,
      List.getElem?_eq_none (by omega),
      List.getElem?_eq_none (by omega)] at hHere
    exact hHere rfl
  refine ⟨(bytes a).take k, (bytes a)[k], (bytes b)[k],
    (bytes a).drop (k + 1), ?_, ?_, ?_⟩
  · rw [← List.drop_eq_getElem_cons hk, List.take_append_drop]
  · have hBefore : (bytes a).take k = (bytes b).take k := by
      apply List.ext_getElem?
      intro i
      rw [List.getElem?_take, List.getElem?_take]
      split
      · exact hSame i (by omega)
      · rfl
    have hAfter :
        (bytes a).drop (k + 1) = (bytes b).drop (k + 1) := by
      apply List.ext_getElem?
      intro i
      rw [List.getElem?_drop, List.getElem?_drop]
      exact hSame _ (by omega)
    rw [hBefore, hAfter, ← List.drop_eq_getElem_cons,
      List.take_append_drop]
  · intro hEqual
    apply hHere
    rw [← getElem?_bytes, ← getElem?_bytes,
      List.getElem?_eq_getElem hk,
      List.getElem?_eq_getElem (hLength ▸ hk), hEqual]

/- One changed byte changes the digest. -/
theorem digest_ne_of_differOnce
    {a b : ByteArray}
    (hDiffer : DifferOnce a b) :
    digest a ≠ digest b := by
  rcases hDiffer.exists_split with
    ⟨before, x, y, after, ha, hb, hNe⟩
  intro hDigest
  rw [digest_eq_foldl, digest_eq_foldl, ha, hb,
    List.foldl_append, List.foldl_append, List.foldl_cons,
    List.foldl_cons] at hDigest
  exact hNe (absorb_right_inj (foldl_absorb_inj hDigest))

/- One changed byte changes the tag. -/
theorem ofBody_ne_of_differOnce
    {a b : ByteArray}
    (hDiffer : DifferOnce a b) :
    ofBody a ≠ ofBody b := by
  intro hTag
  exact digest_ne_of_differOnce hDiffer
    (UInt64.toNat_inj.mp (Numeral.hex_inj hTag))

end Courier.Tag
