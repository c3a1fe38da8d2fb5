import Courier.Text.Utf8

/-
  Text that is written as bytes is read back from them, also by
  the reader that replaces what is no text.

  Main statements:
    * `Utf8.step_utf8EncodeChar`
    * `Utf8.decodeLossy_encode`
    * `Utf8.decode?_encode`
-/

namespace Courier.Utf8

------------------------------------------------------------
-- Single bytes
------------------------------------------------------------

theorem toNat_ofNat_of_lt
    {n : Nat}
    (hByte : n < 256) :
    (UInt8.ofNat n).toNat = n := by
  simpa using hByte

/- The length that a lead byte announces, by its number. -/
theorem sequenceLength_ofNat
    {n : Nat}
    (hByte : n < 256) :
    sequenceLength (UInt8.ofNat n) =
      if n < 0x80 then 1
      else if 0xC2 ≤ n ∧ n ≤ 0xDF then 2
      else if 0xE0 ≤ n ∧ n ≤ 0xEF then 3
      else if 0xF0 ≤ n ∧ n ≤ 0xF4 then 4
      else 0 := by
  simp [sequenceLength, UInt8.lt_iff_toNat_lt,
    UInt8.le_iff_toNat_le, toNat_ofNat_of_lt hByte]

/- The bounds that a lead byte sets, by its number. -/
theorem secondBounds_ofNat
    {n : Nat}
    (hByte : n < 256) :
    secondBounds (UInt8.ofNat n) =
      if n = 0xE0 then (0xA0, 0xBF)
      else if n = 0xED then (0x80, 0x9F)
      else if n = 0xF0 then (0x90, 0xBF)
      else if n = 0xF4 then (0x80, 0x8F)
      else (0x80, 0xBF) := by
  simp [secondBounds, ← UInt8.toNat_inj,
    toNat_ofNat_of_lt hByte]

theorem continues_ofNat
    {lo hi : UInt8}
    {n : Nat}
    (hLo : lo.toNat ≤ n)
    (hHi : n ≤ hi.toNat) :
    continues lo hi (UInt8.ofNat n) = true := by
  have hByte : n < 256 := by
    have := hi.toNat_lt
    omega
  simp [continues, UInt8.le_iff_toNat_le,
    toNat_ofNat_of_lt hByte, hLo, hHi]

/- A continuation byte carries the bits that it was made of. -/
theorem payload_ofNat
    {n : Nat}
    (hBits : n < 64) :
    payload (UInt8.ofNat (n + 128)) = n := by
  rw [payload, toNat_ofNat_of_lt (by omega)]
  omega

------------------------------------------------------------
-- Characters
------------------------------------------------------------

section Lengths

variable {v : Nat} (rest : List UInt8)

theorem step_oneByte
    (hMost : v ≤ 0x7F) :
    step (UInt8.ofNat v) rest = (some (Char.ofNat v), 0) := by
  have hLength : sequenceLength (UInt8.ofNat v) = 1 := by
    rw [sequenceLength_ofNat (by omega), if_pos (by omega)]
  simp only [step, hLength]
  rw [toNat_ofNat_of_lt (by omega)]

theorem step_twoBytes
    (hLeast : 0x7F < v)
    (hMost : v ≤ 0x7FF) :
    step (UInt8.ofNat (v / 64 % 32 + 192))
        (UInt8.ofNat (v % 64 + 128) :: rest) =
      (some (Char.ofNat v), 1) := by
  have hLength :
      sequenceLength (UInt8.ofNat (v / 64 % 32 + 192)) = 2 := by
    rw [sequenceLength_ofNat (by omega), if_neg (by omega),
      if_pos (by omega)]
  have hTail :
      continues 0x80 0xBF (UInt8.ofNat (v % 64 + 128)) :=
    continues_ofNat (by simp) (by simp; omega)
  have hValue :
      (v / 64 % 32 + 192) % 32 * 64 + v % 64 = v := by
    omega
  simp only [step, hLength, hTail, if_true]
  rw [payload_ofNat (by omega), toNat_ofNat_of_lt (by omega),
    hValue]

/- The code points of surrogates are no characters. -/
theorem step_threeBytes
    (hLeast : 0x7FF < v)
    (hMost : v ≤ 0xFFFF)
    (hValid : v < 0xD800 ∨ 0xDFFF < v) :
    step (UInt8.ofNat (v / 4096 % 16 + 224))
        (UInt8.ofNat (v / 64 % 64 + 128) ::
          UInt8.ofNat (v % 64 + 128) :: rest) =
      (some (Char.ofNat v), 2) := by
  have hLength :
      sequenceLength (UInt8.ofNat (v / 4096 % 16 + 224)) =
        3 := by
    rw [sequenceLength_ofNat (by omega), if_neg (by omega),
      if_neg (by omega), if_pos (by omega)]
  have hSecond :
      let bounds :=
        secondBounds (UInt8.ofNat (v / 4096 % 16 + 224))
      continues bounds.1 bounds.2
        (UInt8.ofNat (v / 64 % 64 + 128)) := by
    rw [secondBounds_ofNat (by omega)]
    split
    · exact continues_ofNat (by simp; omega) (by simp; omega)
    split
    · exact continues_ofNat (by simp) (by simp; omega)
    rw [if_neg (by omega), if_neg (by omega)]
    exact continues_ofNat (by simp) (by simp; omega)
  have hTail :
      continues 0x80 0xBF (UInt8.ofNat (v % 64 + 128)) :=
    continues_ofNat (by simp) (by simp; omega)
  have hValue :
      ((v / 4096 % 16 + 224) % 16 * 64 + v / 64 % 64) * 64
        + v % 64 = v := by
    omega
  simp only [step, hLength, hSecond, hTail, Bool.not_true,
    Bool.false_eq_true, if_false]
  rw [payload_ofNat (by omega), payload_ofNat (by omega),
    toNat_ofNat_of_lt (by omega), hValue]

theorem step_fourBytes
    (hLeast : 0xFFFF < v)
    (hMost : v < 0x110000) :
    step (UInt8.ofNat (v / 262144 % 8 + 240))
        (UInt8.ofNat (v / 4096 % 64 + 128) ::
          UInt8.ofNat (v / 64 % 64 + 128) ::
          UInt8.ofNat (v % 64 + 128) :: rest) =
      (some (Char.ofNat v), 3) := by
  have hLength :
      sequenceLength (UInt8.ofNat (v / 262144 % 8 + 240)) =
        4 := by
    rw [sequenceLength_ofNat (by omega), if_neg (by omega),
      if_neg (by omega), if_neg (by omega), if_pos (by omega)]
  have hSecond :
      let bounds :=
        secondBounds (UInt8.ofNat (v / 262144 % 8 + 240))
      continues bounds.1 bounds.2
        (UInt8.ofNat (v / 4096 % 64 + 128)) := by
    rw [secondBounds_ofNat (by omega), if_neg (by omega),
      if_neg (by omega)]
    split
    · exact continues_ofNat (by simp; omega) (by simp; omega)
    split
    · exact continues_ofNat (by simp) (by simp; omega)
    exact continues_ofNat (by simp) (by simp; omega)
  have hThird :
      continues 0x80 0xBF (UInt8.ofNat (v / 64 % 64 + 128)) :=
    continues_ofNat (by simp) (by simp; omega)
  have hTail :
      continues 0x80 0xBF (UInt8.ofNat (v % 64 + 128)) :=
    continues_ofNat (by simp) (by simp; omega)
  have hValue :
      (((v / 262144 % 8 + 240) % 8 * 64 + v / 4096 % 64) * 64
        + v / 64 % 64) * 64 + v % 64 = v := by
    omega
  simp only [step, hLength, hSecond, hThird, hTail,
    Bool.not_true, Bool.false_eq_true, if_false]
  rw [payload_ofNat (by omega), payload_ofNat (by omega),
    payload_ofNat (by omega), toNat_ofNat_of_lt (by omega),
    hValue]

end Lengths

/-
  The bytes of a character are read as this character, whatever
  comes behind them.
-/
theorem step_utf8EncodeChar
    (c : Char)
    (rest : List UInt8) :
    ∃ lead more,
      String.utf8EncodeChar c = lead :: more ∧
        step lead (more ++ rest) = (some c, more.length) := by
  have hChar : Char.ofNat c.val.toNat = c := Char.ofNat_toNat c
  have hValid :
      c.val.toNat < 0xD800 ∨
        0xDFFF < c.val.toNat ∧ c.val.toNat < 0x110000 :=
    c.valid
  generalize hv : c.val.toNat = v at hChar hValid
  subst hChar
  unfold String.utf8EncodeChar
  simp only [hv]
  by_cases hOne : v ≤ 0x7F
  · rw [if_pos hOne]
    exact ⟨_, [], rfl, step_oneByte rest hOne⟩
  rw [if_neg hOne]
  by_cases hTwo : v ≤ 0x7FF
  · rw [if_pos hTwo]
    exact ⟨_, [_], rfl, step_twoBytes rest (by omega) hTwo⟩
  rw [if_neg hTwo]
  by_cases hThree : v ≤ 0xFFFF
  · rw [if_pos hThree]
    exact ⟨_, [_, _], rfl,
      step_threeBytes rest (by omega) hThree (by omega)⟩
  · rw [if_neg hThree]
    exact ⟨_, [_, _, _], rfl,
      step_fourBytes rest (by omega) (by omega)⟩

------------------------------------------------------------
-- Texts
------------------------------------------------------------

theorem encode_cons
    (c : Char)
    (rest : List Char) :
    encode (c :: rest) =
      String.utf8EncodeChar c ++ encode rest :=
  List.flatMap_cons

@[simp] theorem encode_append
    (cs later : List Char) :
    encode (cs ++ later) = encode cs ++ encode later :=
  List.flatMap_append

/- Nothing in the bytes of a text is replaced. -/
theorem decodeLossy_encode
    (cs : List Char) :
    decodeLossy (encode cs) = cs := by
  induction cs with
  | nil => simp [encode, decodeLossy]
  | cons c rest ih =>
      rcases step_utf8EncodeChar c (encode rest) with
        ⟨lead, more, hBytes, hStep⟩
      rw [encode_cons, hBytes, List.cons_append, decodeLossy,
        hStep]
      simp only [Option.getD_some, List.drop_left, ih]

/- The bytes of a text are the text. -/
theorem decode?_encode
    (s : String) :
    decode? (encode s.toList) = some s := by
  have hBytes : (encode s.toList).toByteArray = s.toByteArray :=
    String.utf8Encode_toList
  unfold decode? String.fromUTF8?
  rw [hBytes, dif_pos s.isValidUTF8]
  rfl

end Courier.Utf8
