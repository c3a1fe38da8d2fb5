import Courier.Range.Header
import Mathlib.Tactic.ByContra

/-
  The grammar of the `Range` header, stated without reference to
  how it is read: what a header asks for is a relation between
  its text and a request. Reading a header finds the one request
  that it stands in this relation to.

  Key definitions include:
    * `Numeral.Denotes`
    * `ByteRange.IsBound`
    * `ByteRange.Asks`
    * `ByteRange.Halves`
    * `RangeRequest`
    * `RangeRequest.Reads`

  Main statements:
    * `Numeral.readNat_eq_ok_iff`
    * `ByteRange.readBound_eq_ok_iff`
    * `RangeRequest.reads_iff`
-/

namespace Courier

------------------------------------------------------------
-- Numbers
------------------------------------------------------------

namespace Numeral

/-
  An optional plus sign and at least one decimal digit denote
  the value of the digits.
-/
def Denotes
    (part : List Char)
    (n : Nat) : Prop :=
  ∃ digits,
    (part = digits ∨ part = '+' :: digits) ∧
      digits ≠ [] ∧
      (∀ c ∈ digits, c.isDigit) ∧
      Nat.ofDigitChars 10 digits 0 = n

/- Digits never take a value down. -/
theorem le_ofDigitChars
    (digits : List Char)
    (value : Nat) :
    value ≤ Nat.ofDigitChars 10 digits value := by
  rw [Nat.ofDigitChars_eq_ofDigitChars_zero]
  have hPow : 0 < 10 ^ digits.length := Nat.pow_pos (by decide)
  calc
    value = 1 * value := by rw [Nat.one_mul]
    _ ≤ 10 ^ digits.length * value :=
      Nat.mul_le_mul_right value hPow
    _ ≤ _ := Nat.le_add_right _ _

/- Digits are read to their value when it is below the bound. -/
theorem readDigits_eq_ok_iff
    {bound value : Nat}
    (hValue : value < bound)
    (cs : List Char)
    (n : Nat) :
    readDigits bound value cs = .ok n ↔
      (∀ c ∈ cs, c.isDigit) ∧
        Nat.ofDigitChars 10 cs value = n ∧ n < bound := by
  induction cs generalizing value with
  | nil =>
      simp only [readDigits, Except.ok.injEq,
        List.not_mem_nil, false_imp_iff, implies_true,
        Nat.ofDigitChars_nil, true_and]
      constructor
      · rintro rfl
        exact ⟨rfl, hValue⟩
      · exact And.left
  | cons c rest ih =>
      by_cases hDigit : c.isDigit
      · have hRead : digit? c = some (c.toNat - '0'.toNat) := by
          simp [digit?, hDigit]
        rw [readDigits, hRead, Nat.ofDigitChars_cons,
          Nat.mul_comm 10 value]
        by_cases hNext :
            value * 10 + (c.toNat - '0'.toNat) < bound
        · simp only [if_pos hNext]
          rw [ih hNext]
          simp [hDigit]
        · simp only [if_neg hNext]
          have hLarge :=
            le_ofDigitChars rest
              (value * 10 + (c.toNat - '0'.toNat))
          constructor
          · intro hError
            cases hError
          · rintro ⟨_, rfl, hBound⟩
            omega
      · have hRead : digit? c = none := by
          simp [digit?, hDigit]
        rw [readDigits, hRead]
        simp [hDigit]

theorem readNat_eq_ok_iff
    {bound : Nat}
    (hBound : 0 < bound)
    (part : List Char)
    (n : Nat) :
    readNat bound part = .ok n ↔
      Denotes part n ∧ n < bound := by
  unfold readNat Denotes
  split
  · simp
  · constructor
    · intro hError
      cases hError
    · rintro ⟨⟨digits, hPart, hNil, hDigits, _⟩, _⟩
      rcases hPart with rfl | hPart
      · simp at hDigits
      · simp at hPart
        exact absurd hPart hNil
  · next rest hRest =>
      rw [readDigits_eq_ok_iff hBound]
      constructor
      · rintro ⟨hDigits, hValue, hn⟩
        exact ⟨⟨rest, Or.inr rfl, by simpa using hRest,
          hDigits, hValue⟩, hn⟩
      · rintro ⟨⟨digits, hPart, _, hDigits, hValue⟩, hn⟩
        rcases hPart with rfl | hPart
        · simp at hDigits
        · simp at hPart
          subst hPart
          exact ⟨hDigits, hValue, hn⟩
  · next hNil _ hPlus =>
      rw [readDigits_eq_ok_iff hBound]
      constructor
      · rintro ⟨hDigits, hValue, hn⟩
        exact ⟨⟨part, Or.inl rfl, hNil, hDigits, hValue⟩, hn⟩
      · rintro ⟨⟨digits, hPart, _, hDigits, hValue⟩, hn⟩
        rcases hPart with rfl | hPart
        · exact ⟨hDigits, hValue, hn⟩
        · exact absurd hPart (hPlus digits)

end Numeral

------------------------------------------------------------
-- Bounds and parts
------------------------------------------------------------

namespace ByteRange

/- A bound is absent, or a number below the limit. -/
inductive IsBound : List Char → Option Nat → Prop where
  | absent : IsBound [] none
  | number
      {part : List Char} {n : Nat}
      (hNumber : Numeral.Denotes part n)
      (hLimit : n < boundLimit) :
      IsBound part (some n)

theorem isBound_none_iff
    (part : List Char) :
    IsBound part none ↔ part = [] := by
  constructor
  · intro hBound
    cases hBound
    rfl
  · rintro rfl
    exact .absent

theorem isBound_some_iff
    (part : List Char)
    (n : Nat) :
    IsBound part (some n) ↔
      Numeral.readNat boundLimit part = .ok n := by
  have hLimit : 0 < boundLimit := by decide
  rw [Numeral.readNat_eq_ok_iff hLimit]
  constructor
  · intro hBound
    cases hBound with
    | number hNumber hSmall => exact ⟨hNumber, hSmall⟩
  · rintro ⟨hNumber, hSmall⟩
    exact .number hNumber hSmall

/- Reading a part finds its bound, when it is one. -/
theorem readBound_eq_ok_iff
    (part : List Char)
    (bound : Option Nat) :
    readBound part = .ok bound ↔ IsBound part bound := by
  unfold readBound
  cases bound with
  | none =>
      rw [isBound_none_iff, ← List.isEmpty_iff]
      cases part.isEmpty with
      | true => simp
      | false =>
          cases Numeral.readNat boundLimit part <;> simp
  | some n =>
      rw [isBound_some_iff]
      cases part with
      | nil => simp [Numeral.readNat]
      | cons c rest =>
          cases Numeral.readNat boundLimit (c :: rest) <;> simp

/- The header asks for bytes in these terms. -/
def Asks
    (header : Option String)
    (spec : List Char) : Prop :=
  ∃ text,
    header = some text ∧
      text.toList = "bytes=".toList ++ spec

/- A text is cut at its first dash, when it has one. -/
inductive Halves :
    List Char → List Char → List Char → Prop where
  | dash
      {start stop : List Char}
      (hStart : '-' ∉ start) :
      Halves (start ++ '-' :: stop) start stop
  | plain
      {start : List Char}
      (hStart : '-' ∉ start) :
      Halves start start []

/- The two parts of a text are what it is cut into. -/
theorem halves_iff
    (spec start stop : List Char) :
    Halves spec start stop ↔
      (Text.cutFirst '-' spec).1 = start ∧
        (Text.cutFirst '-' spec).2.getD [] = stop := by
  constructor
  · intro hHalves
    cases hHalves with
    | dash hStart =>
        rw [Text.cutFirst_append_cons hStart]
        exact ⟨rfl, rfl⟩
    | plain hStart =>
        rw [Text.cutFirst_of_not_mem hStart]
        exact ⟨rfl, rfl⟩
  · rintro ⟨rfl, rfl⟩
    have hStart := Text.not_mem_cutFirst '-' spec
    have hSpec := Text.eq_of_cutFirst '-' spec
    cases hCut : Text.cutFirst '-' spec with
    | mk start stop =>
        rw [hCut] at hStart hSpec
        cases stop with
        | none =>
            simp at hSpec
            subst hSpec
            exact .plain hStart
        | some stop =>
            simp at hSpec
            subst hSpec
            exact .dash hStart

/- Asking in terms is starting with the unit. -/
theorem asks_iff
    (header : Option String)
    (spec : List Char) :
    Asks header spec ↔
      header.bind (Text.afterStart? "bytes=") =
        some (String.ofList spec) := by
  cases header with
  | none => simp [Asks]
  | some text => simp [Asks, Text.afterStart?_eq_some_iff]

end ByteRange

------------------------------------------------------------
-- Requests
------------------------------------------------------------

/- What a client asks for: everything, or parts of it. -/
inductive RangeRequest where
  | whole
  | several
  | malformed
  | part (range : ByteRange)
deriving DecidableEq, Repr

namespace RangeRequest

open ByteRange

/-
  What a header asks for. A comma is looked for before the
  bounds are read.
-/
inductive Reads
    (header : Option String) : RangeRequest → Prop where
  | whole
      (hSpec : ∀ spec, ¬ Asks header spec) :
      Reads header .whole
  | several
      {spec : List Char}
      (hSpec : Asks header spec)
      (hComma : ',' ∈ spec) :
      Reads header .several
  | malformed
      {spec start stop : List Char}
      (hSpec : Asks header spec)
      (hComma : ',' ∉ spec)
      (hHalves : Halves spec start stop)
      (hBound :
        (∀ s, ¬ IsBound start s) ∨ ∀ e, ¬ IsBound stop e) :
      Reads header .malformed
  | part
      {spec start stop : List Char} {range : ByteRange}
      (hSpec : Asks header spec)
      (hComma : ',' ∉ spec)
      (hHalves : Halves spec start stop)
      (hStart : IsBound start range.start)
      (hStop : IsBound stop range.stop) :
      Reads header (.part range)

/- The request that a reading of a header stands for. -/
def ofReading :
    Except RangeError (Option ByteRange) → RangeRequest
  | .error .multipleRanges => .several
  | .error (.invalidBound _ _) => .malformed
  | .ok none => .whole
  | .ok (some range) => .part range

/- A bound that cannot be read is named by its error. -/
theorem not_isBound_of_readBound
    {part : List Char}
    {e : RangeError}
    (hRead : readBound part = .error e) :
    (∀ b, ¬ IsBound part b) ∧
      ∃ text fault, e = .invalidBound text fault := by
  constructor
  · intro b hBound
    rw [(readBound_eq_ok_iff part b).mpr hBound] at hRead
    cases hRead
  · unfold readBound at hRead
    split at hRead
    · cases hRead
    · split at hRead
      · cases hRead
      · cases hRead
        exact ⟨_, _, rfl⟩

/- Reading a header finds what it asks for. -/
theorem reads_ofHeader
    (header : Option String) :
    Reads header (ofReading (ofHeader header)) := by
  unfold ofHeader
  cases hSpec : header.bind (Text.afterStart? "bytes=") with
  | none =>
      refine .whole fun spec hAsks => ?_
      rw [(asks_iff header spec).mp hAsks] at hSpec
      cases hSpec
  | some spec =>
      have hAsks : Asks header spec.toList := by
        rw [asks_iff, hSpec, String.ofList_toList]
      by_cases hComma : ',' ∈ spec.toList
      · simp only [if_pos hComma]
        exact .several hAsks hComma
      simp only [if_neg hComma]
      have hHalves :=
        (halves_iff spec.toList _ _).mpr ⟨rfl, rfl⟩
      cases hStart :
          readBound (Text.cutFirst '-' spec.toList).1 with
      | error e =>
          rcases not_isBound_of_readBound hStart with
            ⟨hBound, _, _, rfl⟩
          exact .malformed hAsks hComma hHalves
            (Or.inl hBound)
      | ok start =>
          cases hStop :
              readBound
                ((Text.cutFirst '-' spec.toList).2.getD [])
            with
          | error e =>
              rcases not_isBound_of_readBound hStop with
                ⟨hBound, _, _, rfl⟩
              exact .malformed hAsks hComma hHalves
                (Or.inr hBound)
          | ok stop =>
              exact .part hAsks hComma hHalves
                ((readBound_eq_ok_iff _ _).mp hStart)
                ((readBound_eq_ok_iff _ _).mp hStop)

/- What a header asks for is what reading it finds. -/
theorem Reads.eq_ofReading
    {header : Option String}
    {request : RangeRequest}
    (hReads : Reads header request) :
    request = ofReading (ofHeader header) := by
  cases hReads with
  | whole hSpec =>
      have hNone :
          header.bind (Text.afterStart? "bytes=") = none := by
        by_contra hSome
        rcases Option.ne_none_iff_exists'.mp hSome with
          ⟨spec, hText⟩
        refine hSpec spec.toList ((asks_iff _ _).mpr ?_)
        rw [hText, String.ofList_toList]
      simp [ofHeader, hNone, ofReading]
  | several hSpec hComma =>
      simp [ofHeader, (asks_iff _ _).mp hSpec, hComma,
        ofReading]
  | @malformed spec start stop hSpec hComma hHalves hBound =>
      rcases (halves_iff _ _ _).mp hHalves with
        ⟨hStart, hStop⟩
      simp only [ofHeader, (asks_iff _ _).mp hSpec,
        String.toList_ofList, hComma, if_false, hStart, hStop]
      cases hReadStart : readBound start with
      | error e =>
          rcases (not_isBound_of_readBound hReadStart).2 with
            ⟨_, _, rfl⟩
          rfl
      | ok s =>
          cases hReadStop : readBound stop with
          | error e =>
              rcases (not_isBound_of_readBound hReadStop).2
                with ⟨_, _, rfl⟩
              rfl
          | ok e =>
              have hs := (readBound_eq_ok_iff _ _).mp hReadStart
              have he := (readBound_eq_ok_iff _ _).mp hReadStop
              rcases hBound with hBad | hBad
              · exact absurd hs (hBad s)
              · exact absurd he (hBad e)
  | part hSpec hComma hHalves hStart hStop =>
      rcases (halves_iff _ _ _).mp hHalves with
        ⟨hCutStart, hCutStop⟩
      simp only [ofHeader, (asks_iff _ _).mp hSpec,
        String.toList_ofList, hComma, if_false, hCutStart,
        hCutStop, (readBound_eq_ok_iff _ _).mpr hStart,
        (readBound_eq_ok_iff _ _).mpr hStop, ofReading]

/- A header asks for exactly one thing. -/
theorem reads_iff
    (header : Option String)
    (request : RangeRequest) :
    Reads header request ↔
      request = ofReading (ofHeader header) := by
  constructor
  · exact Reads.eq_ofReading
  · rintro rfl
    exact reads_ofHeader header

end RangeRequest

end Courier
