import Courier.Text.Numeral

/-
  Numbers written in digits: different numbers are written
  differently, and a decimal number holds nothing but digits.

  Main statements:
    * `Numeral.toDigits_inj`
    * `Numeral.hex_inj`
    * `Numeral.not_mem_toDigits`
-/

namespace Courier.Numeral

/- A digit tells its value. -/
theorem digitChar_inj
    {m n : Nat}
    (hm : m < 16)
    (hn : n < 16)
    (hDigit : Nat.digitChar m = Nat.digitChar n) :
    m = n := by
  have hAll :
      ∀ i j : Fin 16,
        Nat.digitChar i = Nat.digitChar j → i = j := by
    decide
  exact congrArg Fin.val (hAll ⟨m, hm⟩ ⟨n, hn⟩ hDigit)

/- Different numbers are written differently. -/
theorem toDigits_inj
    {base : Nat}
    (hBase : 1 < base)
    (hSmall : base ≤ 16)
    {m n : Nat}
    (hDigits : Nat.toDigits base m = Nat.toDigits base n) :
    m = n := by
  -- A number below the base has one digit, any other has more.
  have hDigit {k : Nat} (hk : k < base) : k < 16 :=
    Nat.lt_of_lt_of_le hk hSmall
  induction m using Nat.strongRecOn generalizing n with
  | ind m ih =>
      rw [Nat.toDigits_eq_if hBase,
        Nat.toDigits_eq_if (n := n) hBase] at hDigits
      by_cases hm : m < base <;> by_cases hn : n < base
      · rw [if_pos hm, if_pos hn, List.singleton_inj] at hDigits
        exact digitChar_inj (hDigit hm) (hDigit hn) hDigits
      · rw [if_pos hm, if_neg hn] at hDigits
        simp [List.singleton_eq_append_iff] at hDigits
      · rw [if_neg hm, if_pos hn] at hDigits
        simp [List.append_eq_singleton_iff] at hDigits
      · rw [if_neg hm, if_neg hn] at hDigits
        rcases List.append_inj' hDigits rfl with
          ⟨hHigh, hLow⟩
        have hPos : 0 < base := Nat.zero_lt_of_lt hBase
        have hQuotient : m / base = n / base :=
          ih (m / base) (Nat.div_lt_self (by omega) hBase)
            hHigh
        have hRemainder : m % base = n % base :=
          digitChar_inj (hDigit (Nat.mod_lt m hPos))
            (hDigit (Nat.mod_lt n hPos))
            (List.singleton_inj.mp hLow)
        rw [← Nat.div_add_mod m base, hQuotient, hRemainder,
          Nat.div_add_mod]

/- Different numbers have different hexadecimal forms. -/
theorem hex_inj
    {m n : Nat}
    (hText : hex m = hex n) :
    m = n :=
  toDigits_inj (by decide) (by decide)
    (String.ofList_injective hText)

/- A separator that is no digit does not occur in a numeral. -/
theorem not_mem_toDigits
    {c : Char}
    (hDigit : c.isDigit = false)
    (n : Nat) :
    c ∉ Nat.toDigits 10 n := by
  intro hc
  have hIs :=
    Nat.isDigit_of_mem_toDigits (by decide) (by decide) hc
  rw [hDigit] at hIs
  cases hIs

end Courier.Numeral
