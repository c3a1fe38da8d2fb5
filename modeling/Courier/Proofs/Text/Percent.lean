import Courier.Proofs.Text.Utf8
import Courier.Text.Percent
import Mathlib.Data.List.Forall2

/-
  Text in the written form of forms. A byte may be escaped that
  need not be, and digits may be of either case. However it is
  written, a text holds none of the characters that part names
  from values and pieces from each other, and it is read back.

  Key definitions include:
    * `Percent.isSeparator`
    * `Percent.WritesByte`
    * `Percent.WritesText`
    * `Percent.WritesPair`
    * `Percent.WritesPairs`
    * `Percent.asciiBytes`

  Main statements:
    * `Percent.writesPairs_encodePairs`
    * `Percent.WritesText.ascii`
    * `Percent.WritesText.decodeBytes_eq`
-/

namespace Courier.Percent

------------------------------------------------------------
-- Written forms
------------------------------------------------------------

/- A hexadecimal digit of either case, for the last four bits. -/
def IsHexDigit
    (n : Nat)
    (c : Char) : Prop :=
  c = Numeral.hexDigit n ∨ c = Numeral.hexDigitUpper n

/- What one byte can be written as. -/
inductive WritesByte : UInt8 → List Char → Prop where
  | plain
      {b : UInt8}
      (hPlain : isPlain b = true) :
      WritesByte b [Char.ofNat b.toNat]
  | blank :
      WritesByte 32 ['+']
  | escaped
      {b : UInt8} {high low : Char}
      (hHigh : IsHexDigit (b.toNat / 16) high)
      (hLow : IsHexDigit b.toNat low) :
      WritesByte b ['%', high, low]

/- Bytes are written one after the other. -/
inductive WritesBytes : List UInt8 → List Char → Prop where
  | nil :
      WritesBytes [] []
  | cons
      {b : UInt8} {bytes : List UInt8}
      {first rest : List Char}
      (hByte : WritesByte b first)
      (hRest : WritesBytes bytes rest) :
      WritesBytes (b :: bytes) (first ++ rest)

/- A text is written by its bytes. -/
def WritesText
    (s : String)
    (written : List Char) : Prop :=
  WritesBytes (Utf8.encode s.toList) written

/- A name and a value are written on two sides of one sign. -/
def WritesPair
    (pair : String × String)
    (written : List Char) : Prop :=
  ∃ name value,
    WritesText pair.1 name ∧ WritesText pair.2 value ∧
      written = name ++ '=' :: value

/- Names and values are written in order, parted by a sign. -/
def WritesPairs
    (pairs : List (String × String))
    (written : List Char) : Prop :=
  ∃ pieces,
    List.Forall₂ WritesPair pairs pieces ∧
      written = ['&'].intercalate pieces

theorem writesByte_encodeByte
    (b : UInt8) :
    WritesByte b (encodeByte b) := by
  unfold encodeByte
  by_cases hPlain : isPlain b = true
  · rw [if_pos hPlain]
    exact .plain hPlain
  rw [if_neg hPlain]
  by_cases hBlank : b = 32
  · rw [if_pos hBlank, hBlank]
    exact .blank
  · rw [if_neg hBlank]
    exact .escaped (.inr rfl) (.inr rfl)

theorem writesText_encode
    (s : String) :
    WritesText s (encode s) := by
  unfold WritesText encode
  induction Utf8.encode s.toList with
  | nil => exact .nil
  | cons b bytes ih =>
      rw [encodeBytes, List.flatMap_cons]
      exact .cons (writesByte_encodeByte b) ih

/- The standard writing of a form is one of them. -/
theorem writesPairs_encodePairs
    (pairs : List (String × String)) :
    WritesPairs pairs (encodePairs pairs) := by
  refine ⟨_, ?_, rfl⟩
  rw [List.forall₂_map_right_iff, List.forall₂_same]
  intro pair _
  exact ⟨_, _, writesText_encode pair.1,
    writesText_encode pair.2, rfl⟩

------------------------------------------------------------
-- Characters of the written form
------------------------------------------------------------

/- The characters that part names, values and pieces. -/
def isSeparator
    (c : Char) : Bool :=
  c = '&' || c = '='

/- A character in ASCII, no separator, that is read as these. -/
def IsReadAs
    (fourBits : Nat)
    (c : Char) : Prop :=
  c.toNat < 128 ∧ isSeparator c = false ∧
    Numeral.hexValue? (UInt8.ofNat c.toNat) =
      some (UInt8.ofNat fourBits)

theorem isReadAs_of_fin :
    ∀ n : Fin 16,
      IsReadAs n (Numeral.hexDigit n) ∧
        IsReadAs n (Numeral.hexDigitUpper n) := by
  unfold IsReadAs
  decide

/- A digit of either case is read as its four bits. -/
theorem IsHexDigit.isReadAs
    {n : Nat}
    {digit : Char}
    (hDigit : IsHexDigit n digit) :
    IsReadAs (n % 16) digit := by
  have hSame :
      Numeral.hexDigit n = Numeral.hexDigit (n % 16) := by
    simp [Numeral.hexDigit]
  rcases isReadAs_of_fin ⟨n % 16, Nat.mod_lt n (by decide)⟩ with
    ⟨hLower, hUpper⟩
  unfold IsHexDigit Numeral.hexDigitUpper at hDigit
  rw [hSame] at hDigit
  rcases hDigit with rfl | rfl
  · exact hLower
  · exact hUpper

/- A plain byte is a letter, a digit or one of four marks. -/
theorem isPlain_iff
    (b : UInt8) :
    isPlain b = true ↔
      48 ≤ b.toNat ∧ b.toNat ≤ 57 ∨
        65 ≤ b.toNat ∧ b.toNat ≤ 90 ∨
        97 ≤ b.toNat ∧ b.toNat ≤ 122 ∨
        b.toNat = 42 ∨ b.toNat = 45 ∨ b.toNat = 46 ∨
        b.toNat = 95 := by
  simp [isPlain, UInt8.le_iff_toNat_le, ← UInt8.toNat_inj,
    or_assoc]

theorem toNat_char
    (b : UInt8) :
    (Char.ofNat b.toNat).toNat = b.toNat := by
  have hByte := b.toNat_lt
  rw [Char.ofNat, dif_pos (Or.inl (by omega))]
  rfl

/- A byte is written in ASCII and without separators. -/
theorem WritesByte.mem
    {b : UInt8}
    {written : List Char}
    (hWrites : WritesByte b written)
    {c : Char}
    (hMem : c ∈ written) :
    c.toNat < 128 ∧ isSeparator c = false := by
  cases hWrites with
  | plain hPlain =>
      rw [List.mem_singleton] at hMem
      have hNat := toNat_char b
      rw [← hMem] at hNat
      rw [isPlain_iff, ← hNat] at hPlain
      have hAmp : c ≠ '&' := by
        rintro rfl
        simp at hPlain
      have hEq : c ≠ '=' := by
        rintro rfl
        simp at hPlain
      refine ⟨by omega, ?_⟩
      simp [isSeparator, hAmp, hEq]
  | blank =>
      rw [List.mem_singleton.mp hMem]
      decide
  | escaped hHigh hLow =>
      rcases List.mem_cons.mp hMem with rfl | hMem
      · decide
      rcases List.mem_cons.mp hMem with rfl | hMem
      · exact ⟨hHigh.isReadAs.1, hHigh.isReadAs.2.1⟩
      · rw [List.mem_singleton.mp hMem]
        exact ⟨hLow.isReadAs.1, hLow.isReadAs.2.1⟩

theorem WritesBytes.mem
    {bytes : List UInt8}
    {written : List Char}
    (hWrites : WritesBytes bytes written)
    {c : Char}
    (hMem : c ∈ written) :
    c.toNat < 128 ∧ isSeparator c = false := by
  induction hWrites with
  | nil => cases hMem
  | cons hByte _ ih =>
      rcases List.mem_append.mp hMem with hFirst | hRest
      · exact hByte.mem hFirst
      · exact ih hRest

theorem WritesText.ascii
    {s : String}
    {written : List Char}
    (hWrites : WritesText s written) :
    ∀ c ∈ written, c.toNat < 128 :=
  fun _ hc => (WritesBytes.mem hWrites hc).1

theorem WritesText.not_mem
    {s : String}
    {written : List Char}
    (hWrites : WritesText s written)
    {sep : Char}
    (hSep : isSeparator sep = true) :
    sep ∉ written := by
  intro hMem
  have hOther := (WritesBytes.mem hWrites hMem).2
  rw [hSep] at hOther
  cases hOther

------------------------------------------------------------
-- Reading back
------------------------------------------------------------

/- One byte for each character, for text that is ASCII. -/
def asciiBytes
    (cs : List Char) : List UInt8 :=
  cs.map fun c => UInt8.ofNat c.toNat

theorem encode_eq_asciiBytes
    {cs : List Char}
    (hAscii : ∀ c ∈ cs, c.toNat < 128) :
    Utf8.encode cs = asciiBytes cs := by
  induction cs with
  | nil => rfl
  | cons c rest ih =>
      have hFirst := hAscii c List.mem_cons_self
      have hChar :
          String.utf8EncodeChar c = [UInt8.ofNat c.toNat] :=
        if_pos (Nat.le_of_lt_succ hFirst)
      rw [Utf8.encode_cons, hChar,
        ih fun d hd => hAscii d (List.mem_cons_of_mem _ hd)]
      rfl

/- Each byte of ASCII text is read as its character. -/
theorem map_ofNat_asciiBytes
    {cs : List Char}
    (hAscii : ∀ c ∈ cs, c.toNat < 128) :
    (asciiBytes cs).map (fun b => Char.ofNat b.toNat) = cs := by
  rw [asciiBytes, List.map_map]
  refine (List.map_congr_left ?_).trans (List.map_id cs)
  intro c hc
  have hChar := hAscii c hc
  rw [Function.comp_apply, Utf8.toNat_ofNat_of_lt (by omega),
    Char.ofNat_toNat, id]

/- Bytes of ASCII text that are a character stand for it. -/
theorem not_mem_asciiBytes
    {cs : List Char}
    (hAscii : ∀ c ∈ cs, c.toNat < 128)
    {sep : Char}
    (hSepAscii : sep.toNat < 128)
    (hSep : sep ∉ cs) :
    UInt8.ofNat sep.toNat ∉ asciiBytes cs := by
  intro hMem
  rcases List.mem_map.mp hMem with ⟨c, hc, hByte⟩
  have hChar := hAscii c hc
  rw [← UInt8.toNat_inj, Utf8.toNat_ofNat_of_lt (by omega),
    Utf8.toNat_ofNat_of_lt (by omega), Char.toNat_inj] at hByte
  exact hSep (hByte ▸ hc)

/- Only a percent sign starts an escape. -/
theorem decodeBytes_cons_of_ne
    {b : UInt8}
    (hOther : b ≠ 37)
    (rest : List UInt8) :
    decodeBytes (b :: rest) =
      (if b = 43 then 32 else b) :: decodeBytes rest := by
  rw [decodeBytes]
  intro hi lo more hByte
  exact absurd hByte hOther

theorem decodeBytes_escape
    {hi lo h l : UInt8}
    (hHigh : Numeral.hexValue? hi = some h)
    (hLow : Numeral.hexValue? lo = some l)
    (rest : List UInt8) :
    decodeBytes (37 :: hi :: lo :: rest) =
      (h * 16 + l) :: decodeBytes rest := by
  rw [decodeBytes, hHigh, hLow]

/- A written byte is read as this byte. -/
theorem WritesByte.decodeBytes_append
    {b : UInt8}
    {written : List Char}
    (hWrites : WritesByte b written)
    (rest : List UInt8) :
    decodeBytes (asciiBytes written ++ rest) =
      b :: decodeBytes rest := by
  cases hWrites with
  | plain hPlain =>
      rw [isPlain_iff] at hPlain
      have hEscape : b ≠ 37 := by
        rintro rfl
        simp at hPlain
      have hPlus : b ≠ 43 := by
        rintro rfl
        simp at hPlain
      rw [asciiBytes, List.map_singleton, toNat_char,
        UInt8.ofNat_toNat, List.singleton_append,
        decodeBytes_cons_of_ne hEscape, if_neg hPlus]
  | blank => exact decodeBytes_cons_of_ne (by decide) rest
  | escaped hHigh hLow =>
      have hValue :
          UInt8.ofNat (b.toNat / 16 % 16) * 16
            + UInt8.ofNat (b.toNat % 16) = b := by
        have hByte := b.toNat_lt
        rw [← UInt8.toNat_inj, UInt8.toNat_add,
          UInt8.toNat_mul, Utf8.toNat_ofNat_of_lt (by omega),
          Utf8.toNat_ofNat_of_lt (by omega)]
        simp
        omega
      have hEscape :=
        decodeBytes_escape hHigh.isReadAs.2.2 hLow.isReadAs.2.2
          rest
      rw [hValue] at hEscape
      exact hEscape

/- So are written bytes in order. -/
theorem WritesBytes.decodeBytes_append
    {bytes : List UInt8}
    {written : List Char}
    (hWrites : WritesBytes bytes written)
    (rest : List UInt8) :
    decodeBytes (asciiBytes written ++ rest) =
      bytes ++ decodeBytes rest := by
  induction hWrites with
  | nil => rfl
  | @cons b bytes first more hByte _ ih =>
      have hAppend :
          asciiBytes (first ++ more) =
            asciiBytes first ++ asciiBytes more :=
        List.map_append
      rw [hAppend, List.append_assoc, hByte.decodeBytes_append,
        ih, List.cons_append]

/- A written text stands for the bytes of the text. -/
theorem WritesText.decodeBytes_eq
    {s : String}
    {written : List Char}
    (hWrites : WritesText s written) :
    decodeBytes (asciiBytes written) = Utf8.encode s.toList := by
  have hBytes := WritesBytes.decodeBytes_append hWrites []
  rwa [List.append_nil, decodeBytes, List.append_nil] at hBytes

end Courier.Percent
