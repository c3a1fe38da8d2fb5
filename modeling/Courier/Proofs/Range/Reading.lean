import Courier.Proofs.Range.Grammar
import Courier.Proofs.Text.Digits

/-
  What reading a `Range` header answers: each answer exactly
  when the header has the form that it stands for. Of two parts
  that are no bounds the first is named, with the fault of its
  digits. Bounds of one word are read back from the header that
  asks for them.

  Key definitions include:
    * `Numeral.Stops`
    * `Numeral.Fails`
    * `ByteRange.Offends`
    * `ByteRange.Answers`
    * `ByteRange.ofWords`

  Main statements:
    * `Numeral.readNat_eq_error_iff`
    * `ByteRange.ofHeader_eq_invalidBound_iff`
    * `ByteRange.ofHeader_toHeader`
    * `ByteRange.ofHeader_answers`
-/

namespace Courier

------------------------------------------------------------
-- Faults of numbers
------------------------------------------------------------

namespace Numeral

/-
  Reading digits onto a value stops at a character: the value
  is below the bound so far, and the character is no digit or
  takes it to the bound.
-/
inductive Stops
    (bound value : Nat) : List Char → Fault → Prop where
  | badDigit
      {digits rest : List Char} {c : Char}
      (hDigits : ∀ d ∈ digits, d.isDigit)
      (hSmall : Nat.ofDigitChars 10 digits value < bound)
      (hBad : c.isDigit = false) :
      Stops bound value (digits ++ c :: rest) .badDigit
  | tooLarge
      {digits rest : List Char} {c : Char}
      (hDigits : ∀ d ∈ digits, d.isDigit)
      (hSmall : Nat.ofDigitChars 10 digits value < bound)
      (hDigit : c.isDigit)
      (hLarge :
        bound ≤ Nat.ofDigitChars 10 (digits ++ [c]) value) :
      Stops bound value (digits ++ c :: rest) .tooLarge

/- A digit multiplies the value by ten and is added. -/
theorem ofDigitChars_cons_value
    (c : Char)
    (digits : List Char)
    (value : Nat) :
    Nat.ofDigitChars 10 (c :: digits) value =
      Nat.ofDigitChars 10 digits
        (value * 10 + (c.toNat - '0'.toNat)) := by
  rw [Nat.ofDigitChars_cons, Nat.mul_comm 10 value]

/- A digit before the place of a fault leaves the fault. -/
theorem Stops.cons
    {bound value : Nat}
    {c : Char}
    {rest : List Char}
    {fault : Fault}
    (hDigit : c.isDigit)
    (hStops :
      Stops bound (value * 10 + (c.toNat - '0'.toNat)) rest
        fault) :
    Stops bound value (c :: rest) fault := by
  have hAll {digits : List Char}
      (hDigits : ∀ d ∈ digits, d.isDigit) :
      ∀ d ∈ c :: digits, d.isDigit := by
    intro d hd
    rcases List.mem_cons.mp hd with rfl | hd
    · exact hDigit
    · exact hDigits d hd
  cases hStops with
  | badDigit hDigits hSmall hBad =>
      rw [← ofDigitChars_cons_value] at hSmall
      exact .badDigit (hAll hDigits) hSmall hBad
  | tooLarge hDigits hSmall hNext hLarge =>
      rw [← ofDigitChars_cons_value] at hSmall hLarge
      exact .tooLarge (hAll hDigits) hSmall hNext hLarge

/- Digits that stay below the bound are read onto the value. -/
theorem readDigits_append
    {bound value : Nat}
    {digits : List Char}
    (hDigits : ∀ d ∈ digits, d.isDigit)
    (hSmall : Nat.ofDigitChars 10 digits value < bound)
    (rest : List Char) :
    readDigits bound value (digits ++ rest) =
      readDigits bound (Nat.ofDigitChars 10 digits value)
        rest := by
  induction digits generalizing value with
  | nil => rfl
  | cons c digits ih =>
      rw [ofDigitChars_cons_value] at hSmall ⊢
      have hRead : digit? c = some (c.toNat - '0'.toNat) := by
        simp [digit?, hDigits c List.mem_cons_self]
      have hNext :
          value * 10 + (c.toNat - '0'.toNat) < bound :=
        Nat.lt_of_le_of_lt (le_ofDigitChars digits _) hSmall
      rw [List.cons_append, readDigits, hRead]
      simp only [if_pos hNext]
      exact ih
        (fun d hd => hDigits d (List.mem_cons_of_mem _ hd))
        hSmall

/- Reading digits fails where it stops. -/
theorem readDigits_eq_error_iff
    {bound value : Nat}
    (hValue : value < bound)
    (cs : List Char)
    (fault : Fault) :
    readDigits bound value cs = .error fault ↔
      Stops bound value cs fault := by
  constructor
  · intro hRead
    induction cs generalizing value with
    | nil => cases hRead
    | cons c rest ih =>
        rw [readDigits] at hRead
        cases hDigit : c.isDigit with
        | false =>
            simp only [digit?, hDigit, Bool.false_eq_true,
              if_false] at hRead
            cases hRead
            change Stops bound value ([] ++ c :: rest) _
            exact .badDigit (by simp) hValue hDigit
        | true =>
            simp only [digit?, hDigit, if_true] at hRead
            split at hRead
            · next hNext =>
                exact (ih hNext hRead).cons hDigit
            · next hNext =>
                cases hRead
                change Stops bound value ([] ++ c :: rest) _
                refine .tooLarge (by simp) hValue hDigit ?_
                rw [List.nil_append, ofDigitChars_cons_value]
                exact Nat.le_of_not_lt hNext
  · intro hStops
    cases hStops with
    | badDigit hDigits hSmall hBad =>
        rw [readDigits_append hDigits hSmall]
        simp [readDigits, digit?, hBad]
    | tooLarge hDigits hSmall hDigit hLarge =>
        rw [Nat.ofDigitChars_append, ofDigitChars_cons_value,
          Nat.ofDigitChars_nil] at hLarge
        rw [readDigits_append hDigits hSmall]
        simp only [readDigits, digit?, hDigit, if_true]
        rw [if_neg (Nat.not_lt.mpr hLarge)]

/-
  A text fails to be a number below the bound: it is empty, or
  a plus sign alone, or its digits stop.
-/
inductive Fails
    (bound : Nat) : List Char → Fault → Prop where
  | empty : Fails bound [] .empty
  | sign : Fails bound ['+'] .badDigit
  | plain
      {part : List Char} {fault : Fault}
      (hPlain : part.head? ≠ some '+')
      (hStops : Stops bound 0 part fault) :
      Fails bound part fault
  | signed
      {digits : List Char} {fault : Fault}
      (hStops : Stops bound 0 digits fault) :
      Fails bound ('+' :: digits) fault

/- Nothing stops a text without characters. -/
theorem Stops.ne_nil
    {bound value : Nat}
    {cs : List Char}
    {fault : Fault}
    (hStops : Stops bound value cs fault) :
    cs ≠ [] := by
  cases hStops <;> simp

/- A text is not read exactly when it fails, with its fault. -/
theorem readNat_eq_error_iff
    {bound : Nat}
    (hBound : 0 < bound)
    (part : List Char)
    (fault : Fault) :
    readNat bound part = .error fault ↔
      Fails bound part fault := by
  constructor
  · intro hRead
    unfold readNat at hRead
    split at hRead
    · cases hRead
      exact .empty
    · cases hRead
      exact .sign
    · exact .signed
        ((readDigits_eq_error_iff hBound _ _).mp hRead)
    · next hPlus =>
        refine .plain ?_
          ((readDigits_eq_error_iff hBound _ _).mp hRead)
        intro hHead
        rcases List.head?_eq_some_iff.mp hHead with
          ⟨digits, rfl⟩
        exact hPlus digits rfl
  · intro hFails
    cases hFails with
    | empty => rfl
    | sign => rfl
    | plain hPlain hStops =>
        have hRead :=
          (readDigits_eq_error_iff hBound _ _).mpr hStops
        unfold readNat
        split
        · exact absurd rfl hStops.ne_nil
        · exact absurd rfl hPlain
        · exact absurd rfl hPlain
        · exact hRead
    | signed hStops =>
        have hRead :=
          (readDigits_eq_error_iff hBound _ _).mpr hStops
        unfold readNat
        split
        · next hNone => cases hNone
        · next hSign =>
            cases hSign
            exact absurd rfl hStops.ne_nil
        · next hSigned =>
            cases hSigned
            exact hRead
        · next hPlus => exact absurd rfl (hPlus _)

/- A number below the bound is read from its decimal digits. -/
theorem readNat_toDigits
    {bound n : Nat}
    (hn : n < bound) :
    readNat bound (Nat.toDigits 10 n) = .ok n := by
  rw [readNat_eq_ok_iff (Nat.zero_lt_of_lt hn)]
  refine ⟨⟨_, Or.inl rfl, Nat.toDigits_ne_nil, ?_, ?_⟩, hn⟩
  · intro c hc
    exact Nat.isDigit_of_mem_toDigits (by decide) (by decide) hc
  · exact Nat.ofDigitChars_ten_toDigits

end Numeral

------------------------------------------------------------
-- The part that is named
------------------------------------------------------------

namespace ByteRange

/- The first of two parts that is no bound. -/
inductive Offends
    (start stop : List Char) : List Char → Prop where
  | start
      (hStart : ∀ b, ¬ IsBound start b) :
      Offends start stop start
  | stop
      {b : Option Nat}
      (hStart : IsBound start b)
      (hStop : ∀ b, ¬ IsBound stop b) :
      Offends start stop stop

/- What offends is no bound. -/
theorem Offends.not_isBound
    {start stop part : List Char}
    (hOffends : Offends start stop part) :
    ∀ b, ¬ IsBound part b := by
  cases hOffends with
  | start hStart => exact hStart
  | stop _ hStop => exact hStop

/- A part that is no bound is named by its error. -/
theorem readBound_eq_invalidBound_iff
    (cs : List Char)
    (part : String)
    (fault : Numeral.Fault) :
    readBound cs = .error (.invalidBound part fault) ↔
      cs ≠ [] ∧ part.toList = cs ∧
        Numeral.Fails boundLimit cs fault := by
  have hLimit : 0 < boundLimit := by decide
  have hPart : String.ofList cs = part ↔ part.toList = cs := by
    rw [← String.toList_inj, String.toList_ofList, eq_comm]
  rw [← Numeral.readNat_eq_error_iff hLimit, ← hPart]
  unfold readBound
  cases cs with
  | nil => simp
  | cons c rest =>
      cases Numeral.readNat boundLimit (c :: rest) with
      | ok n => simp
      | error other => simp

/- A part that is no bound fails with some fault. -/
theorem exists_fails
    {cs : List Char}
    (hBound : ∀ b, ¬ IsBound cs b) :
    ∃ fault, Numeral.Fails boundLimit cs fault := by
  cases hRead : readBound cs with
  | ok b =>
      exact absurd ((readBound_eq_ok_iff cs b).mp hRead)
        (hBound b)
  | error e =>
      rcases (RangeRequest.not_isBound_of_readBound hRead).2
        with ⟨part, fault, rfl⟩
      exact
        ⟨fault,
          ((readBound_eq_invalidBound_iff _ _ _).mp hRead).2.2⟩

/- The bounds of a header are read from its two parts. -/
theorem ofHeader_of_halves
    {header : Option String}
    {spec start stop : List Char}
    (hSpec : Asks header spec)
    (hComma : ',' ∉ spec)
    (hHalves : Halves spec start stop) :
    ofHeader header =
      (do
        let s ← readBound start
        let e ← readBound stop
        return some ⟨s, e⟩) := by
  rcases (halves_iff _ _ _).mp hHalves with ⟨rfl, rfl⟩
  simp only [ofHeader, (asks_iff _ _).mp hSpec,
    String.toList_ofList, hComma, if_false]
  cases readBound (Text.cutFirst '-' spec).1 with
  | error e => rfl
  | ok s =>
      cases readBound
          ((Text.cutFirst '-' spec).2.getD []) <;> rfl

/-
  A bound is refused exactly when the header asks for a single
  range and the part that is named is the first that offends,
  with its fault.
-/
theorem ofHeader_eq_invalidBound_iff
    (header : Option String)
    (part : String)
    (fault : Numeral.Fault) :
    ofHeader header = .error (.invalidBound part fault) ↔
      ∃ spec start stop,
        Asks header spec ∧ ',' ∉ spec ∧
          Halves spec start stop ∧
          Offends start stop part.toList ∧
          Numeral.Fails boundLimit part.toList fault := by
  constructor
  · intro hRead
    have hReads := RangeRequest.reads_ofHeader header
    rw [hRead] at hReads
    cases hReads with
    | @malformed spec start stop hSpec hComma hHalves _ =>
        refine
          ⟨spec, start, stop, hSpec, hComma, hHalves, ?_⟩
        rw [ofHeader_of_halves hSpec hComma hHalves] at hRead
        cases hStart : readBound start with
        | error e =>
            rw [hStart] at hRead
            cases hRead
            rcases (readBound_eq_invalidBound_iff _ _ _).mp
                hStart with ⟨_, rfl, hFails⟩
            exact
              ⟨.start (RangeRequest.not_isBound_of_readBound hStart).1,
                hFails⟩
        | ok s =>
            cases hStop : readBound stop with
            | ok e =>
                rw [hStart, hStop] at hRead
                cases hRead
            | error e =>
                rw [hStart, hStop] at hRead
                cases hRead
                rcases (readBound_eq_invalidBound_iff _ _ _).mp
                    hStop with ⟨_, rfl, hFails⟩
                exact
                  ⟨.stop ((readBound_eq_ok_iff _ _).mp hStart)
                      (RangeRequest.not_isBound_of_readBound hStop).1,
                    hFails⟩
  · rintro
      ⟨spec, start, stop, hSpec, hComma, hHalves, hOffends,
        hFails⟩
    have hError :
        (∀ b, ¬ IsBound part.toList b) →
          readBound part.toList =
            .error (.invalidBound part fault) := by
      intro hBound
      refine (readBound_eq_invalidBound_iff _ _ _).mpr
        ⟨?_, rfl, hFails⟩
      intro hNil
      exact hBound none ((isBound_none_iff _).mpr hNil)
    rw [ofHeader_of_halves hSpec hComma hHalves]
    generalize hCs : part.toList = cs at hOffends hError
    cases hOffends with
    | start hStart =>
        rw [hError hStart]
        rfl
    | stop hStart hStop =>
        rw [(readBound_eq_ok_iff _ _).mpr hStart,
          hError hStop]
        rfl

/- Of two parts that are no bounds the first is named. -/
example :
    ofHeader (some "bytes=+-18446744073709551616") =
      .error (.invalidBound "+" .badDigit) := by
  rfl

------------------------------------------------------------
-- Written ranges
------------------------------------------------------------

/- The range between two words, of which either may be absent. -/
def ofWords
    (start stop : Option UInt64) : ByteRange where
  start := start.map UInt64.toNat
  stop := stop.map UInt64.toNat

/- A written bound is read back. -/
theorem readBound_writeBound
    (word : Option UInt64) :
    readBound (writeBound (word.map UInt64.toNat)).toList =
      .ok (word.map UInt64.toNat) := by
  cases word with
  | none => rfl
  | some n =>
      rw [readBound_eq_ok_iff, Option.map_some, isBound_some_iff]
      change Numeral.readNat _ n.toNat.repr.toList = _
      rw [Nat.toList_repr]
      exact Numeral.readNat_toDigits n.toNat_lt

/- A separator that is no digit does not stand in a bound. -/
theorem not_mem_writeBound
    {c : Char}
    (hDigit : c.isDigit = false)
    (bound : Option Nat) :
    c ∉ (writeBound bound).toList := by
  cases bound with
  | none => simp [writeBound]
  | some n =>
      intro hc
      change c ∈ n.repr.toList at hc
      rw [Nat.toList_repr] at hc
      exact Numeral.not_mem_toDigits hDigit n hc

/- A range between words is read back from its header. -/
theorem ofHeader_toHeader
    (start stop : Option UInt64) :
    ofHeader (some (ofWords start stop).toHeader) =
      .ok (some (ofWords start stop)) := by
  let first := (writeBound (start.map UInt64.toNat)).toList
  let last := (writeBound (stop.map UInt64.toNat)).toList
  have hSpec :
      Asks (some (ofWords start stop).toHeader)
        (first ++ '-' :: last) :=
    ⟨_, rfl, by simp [toHeader, ofWords, first, last]⟩
  have hComma : ',' ∉ first ++ '-' :: last := by
    rw [List.mem_append, List.mem_cons, not_or, not_or]
    exact
      ⟨not_mem_writeBound (by decide) _, by decide,
        not_mem_writeBound (by decide) _⟩
  rw [ofHeader_of_halves hSpec hComma
      (.dash (not_mem_writeBound (by decide) _)),
    readBound_writeBound, readBound_writeBound]
  rfl

------------------------------------------------------------
-- Every answer
------------------------------------------------------------

/-
  The answer to a header, for each kind of answer exactly when
  it is given.
-/
structure Answers
    (header : Option String)
    (answer : Except RangeError (Option ByteRange)) : Prop where
  -- the header is absent or does not name bytes
  whole_iff :
    answer = .ok none ↔
      ∀ text ∈ header, ¬ "bytes=".toList <+: text.toList
  several_iff :
    answer = .error .multipleRanges ↔
      ∃ spec, Asks header spec ∧ ',' ∈ spec
  part_iff :
    ∀ range,
      answer = .ok (some range) ↔
        ∃ spec start stop,
          Asks header spec ∧ ',' ∉ spec ∧
            Halves spec start stop ∧
            IsBound start range.start ∧
            IsBound stop range.stop
  offender_iff :
    ∀ part,
      (∃ fault, answer = .error (.invalidBound part fault)) ↔
        ∃ spec start stop,
          Asks header spec ∧ ',' ∉ spec ∧
            Halves spec start stop ∧
            Offends start stop part.toList
  fault :
    ∀ part fault,
      answer = .error (.invalidBound part fault) →
        Numeral.Fails boundLimit part.toList fault

/- A header asks in no terms when it does not name bytes. -/
theorem forall_not_asks_iff
    (header : Option String) :
    (∀ spec, ¬ Asks header spec) ↔
      ∀ text ∈ header, ¬ "bytes=".toList <+: text.toList := by
  constructor
  · rintro hNone text hText ⟨spec, hSpec⟩
    exact hNone spec ⟨text, hText, hSpec.symm⟩
  · rintro hNone spec ⟨text, hText, hSpec⟩
    exact hNone text hText ⟨spec, hSpec.symm⟩

/- Different requests are told apart by their readings. -/
theorem ofReading_eq_iff
    (answer : Except RangeError (Option ByteRange)) :
    (RangeRequest.ofReading answer = .whole ↔
        answer = .ok none) ∧
      (RangeRequest.ofReading answer = .several ↔
        answer = .error .multipleRanges) ∧
      ∀ range,
        RangeRequest.ofReading answer = .part range ↔
          answer = .ok (some range) := by
  rcases answer with (_ | ⟨part, fault⟩) | (_ | range) <;>
    simp [RangeRequest.ofReading]

/- Nothing is asked for when the unit does not stand first. -/
theorem ofHeader_eq_none_iff
    (header : Option String) :
    ofHeader header = .ok none ↔
      ∀ text ∈ header, ¬ "bytes=".toList <+: text.toList := by
  rw [← (ofReading_eq_iff _).1, eq_comm,
    ← RangeRequest.reads_iff, ← forall_not_asks_iff]
  constructor
  · intro hReads
    cases hReads with
    | whole hSpec => exact hSpec
  · exact .whole

/- Several ranges are told by a comma. -/
theorem ofHeader_eq_multipleRanges_iff
    (header : Option String) :
    ofHeader header = .error .multipleRanges ↔
      ∃ spec, Asks header spec ∧ ',' ∈ spec := by
  rw [← (ofReading_eq_iff _).2.1, eq_comm,
    ← RangeRequest.reads_iff]
  constructor
  · intro hReads
    cases hReads with
    | several hSpec hComma => exact ⟨_, hSpec, hComma⟩
  · rintro ⟨spec, hSpec, hComma⟩
    exact .several hSpec hComma

/- A range is read from two parts that are its bounds. -/
theorem ofHeader_eq_some_iff
    (header : Option String)
    (range : ByteRange) :
    ofHeader header = .ok (some range) ↔
      ∃ spec start stop,
        Asks header spec ∧ ',' ∉ spec ∧
          Halves spec start stop ∧
          IsBound start range.start ∧
          IsBound stop range.stop := by
  rw [← (ofReading_eq_iff _).2.2, eq_comm,
    ← RangeRequest.reads_iff]
  constructor
  · intro hReads
    cases hReads with
    | part hSpec hComma hHalves hStart hStop =>
        exact ⟨_, _, _, hSpec, hComma, hHalves, hStart, hStop⟩
  · rintro
      ⟨spec, start, stop, hSpec, hComma, hHalves, hStart, hStop⟩
    exact .part hSpec hComma hHalves hStart hStop

/- The part that offends is named, whatever its fault. -/
theorem exists_invalidBound_iff
    (header : Option String)
    (part : String) :
    (∃ fault,
        ofHeader header = .error (.invalidBound part fault)) ↔
      ∃ spec start stop,
        Asks header spec ∧ ',' ∉ spec ∧
          Halves spec start stop ∧
          Offends start stop part.toList := by
  simp only [ofHeader_eq_invalidBound_iff]
  constructor
  · rintro
      ⟨_, spec, start, stop, hSpec, hComma, hHalves, hOffends, _⟩
    exact ⟨spec, start, stop, hSpec, hComma, hHalves, hOffends⟩
  · rintro
      ⟨spec, start, stop, hSpec, hComma, hHalves, hOffends⟩
    rcases exists_fails hOffends.not_isBound with
      ⟨fault, hFails⟩
    exact
      ⟨fault, spec, start, stop, hSpec, hComma, hHalves,
        hOffends, hFails⟩

/-
  Every header is answered by the grammar: nothing is asked for
  without the unit, several ranges are refused before a bound is
  read, and the first part that is no bound is named. Ranges
  between words are read back from their headers.
-/
theorem ofHeader_answers
    (header : Option String) :
    Answers header (ofHeader header) ∧
      ∀ start stop,
        ofHeader (some (ofWords start stop).toHeader) =
          .ok (some (ofWords start stop)) := by
  refine ⟨?_, ofHeader_toHeader⟩
  exact
    { whole_iff := ofHeader_eq_none_iff header
      several_iff := ofHeader_eq_multipleRanges_iff header
      part_iff := ofHeader_eq_some_iff header
      offender_iff := exists_invalidBound_iff header
      fault := by
        intro part fault hAnswer
        rcases (ofHeader_eq_invalidBound_iff _ _ _).mp hAnswer
          with ⟨_, _, _, _, _, _, _, hFails⟩
        exact hFails }

end ByteRange

end Courier
