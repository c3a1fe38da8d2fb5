import Courier.Calendar
import Courier.Proofs.Text.Digits
import Courier.Proofs.Text.Pieces

/-
  Dates as they are written in headers. A day of the civil
  calendar is the day of one number only, and a date tells the
  day and the time that it was written for. It is made of words,
  and the marks between them are blanks, commas and colons.

  Key definitions include:
    * `Calendar.daysBefore`
    * `Calendar.ofMarch`
    * `Calendar.IsWord`

  Main statements:
    * `Calendar.civil_inj`
    * `Calendar.httpDate_inj`
    * `Calendar.not_mem_httpDate`
-/

namespace Courier.Calendar

------------------------------------------------------------
-- Years
------------------------------------------------------------

/- The days before a year, of years that start in March. -/
def daysBefore
    (year : Nat) : Nat :=
  365 * year + year / 4 - year / 100 + year / 400

/- The year of an era that a day of the era falls in. -/
def yearOfEra
    (day : Nat) : Nat :=
  (day - day / 1460 + day / 36524 - day / 146096) / 365

/- A century has one leap day in four years, but for its end. -/
theorem daysBefore_century
    {century year : Nat}
    (hCentury : century < 4)
    (hYear : year < 100) :
    daysBefore (100 * century + year) =
      36524 * century + (365 * year + year / 4) := by
  have hLeap :
      (100 * century + year) / 4 = 25 * century + year / 4 := by
    omega
  have hNone : (100 * century + year) / 100 = century := by
    omega
  have hEra : (100 * century + year) / 400 = 0 := by
    omega
  rw [daysBefore, hLeap, hNone, hEra]
  omega

theorem daysBefore_era
    {year : Nat}
    (hYear : year < 400)
    (era : Nat) :
    daysBefore (year + era * 400) =
      146097 * era + daysBefore year := by
  unfold daysBefore
  omega

theorem yearOfEra_century
    {century day : Nat}
    (hCentury : century < 4)
    (hDay : day < 36524) :
    yearOfEra (36524 * century + day) =
      100 * century
        + (day - (24 * century + day) / 1460) / 365 := by
  unfold yearOfEra
  omega

/- A day of an era falls in the year that it is counted to. -/
theorem yearOfEra_bounds
    {day : Nat}
    (hDay : day < 146097) :
    yearOfEra day < 400 ∧
      daysBefore (yearOfEra day) ≤ day ∧
      day ≤ daysBefore (yearOfEra day) + 366 := by
  rcases Nat.lt_or_ge day (36524 * 4) with hLess | hLast
  · -- The day is day `rest` of a century.
    have hCentury : day / 36524 < 4 :=
      Nat.div_lt_of_lt_mul hLess
    have hRest : day % 36524 < 36524 :=
      Nat.mod_lt day (by decide)
    rw [← Nat.div_add_mod day 36524]
    generalize day / 36524 = century at hCentury ⊢
    generalize day % 36524 = rest at hRest ⊢
    have hYear :
        let year := (rest - (24 * century + rest) / 1460) / 365
        year < 100 ∧ 365 * year + year / 4 ≤ rest ∧
          rest ≤ 365 * year + year / 4 + 366 := by
      omega
    rw [yearOfEra_century hCentury hRest,
      daysBefore_century hCentury hYear.1]
    omega
  · -- An era ends with a leap day that its last century lacks.
    have hEnd : day = 146096 := by
      omega
    subst hEnd
    decide

------------------------------------------------------------
-- Days
------------------------------------------------------------

theorem Day.eq_of_parts
    {d e : Day}
    (hYear : d.year = e.year)
    (hMonth : d.month = e.month)
    (hDay : d.day = e.day) :
    d = e := by
  cases d
  cases e
  simp_all

/- The civil day of a year that starts in March. -/
def ofMarch
    (year dayOfYear : Nat) : Day :=
  let shifted := (5 * dayOfYear + 2) / 153
  let month := if shifted < 10 then shifted + 3 else shifted - 9
  { year := year + (if month ≤ 2 then 1 else 0)
    month := month
    day := dayOfYear - (153 * shifted + 2) / 5 + 1 }

/- A day of the calendar is one day of one such year. -/
theorem ofMarch_inj
    {year year' day day' : Nat}
    (hDay : day ≤ 366)
    (hDay' : day' ≤ 366)
    (hSame : ofMarch year day = ofMarch year' day') :
    year = year' ∧ day = day' := by
  simp only [ofMarch, Day.mk.injEq] at hSame
  rcases hSame with ⟨hYears, hMonths, hDays⟩
  -- The twelve months in which such a year falls differ.
  have hShifted :
      (5 * day + 2) / 153 = (5 * day' + 2) / 153 := by
    split_ifs at hMonths <;> omega
  rw [hShifted] at hYears hDays
  omega

/- Every number of days falls in a year. -/
theorem exists_civil_eq
    (days : Nat) :
    ∃ year dayOfYear,
      days + 719468 = daysBefore year + dayOfYear ∧
        dayOfYear ≤ 366 ∧
        civil days = ofMarch year dayOfYear := by
  have hDay : (days + 719468) % 146097 < 146097 :=
    Nat.mod_lt _ (by decide)
  have hDays := Nat.div_add_mod (days + 719468) 146097
  have hCivil :
      civil days =
        let day := (days + 719468) % 146097
        let year := yearOfEra day
        ofMarch (year + (days + 719468) / 146097 * 400)
          (day - (365 * year + year / 4 - year / 100)) :=
    rfl
  -- From here on only the era and the day in it matter.
  generalize (days + 719468) % 146097 = day at *
  generalize (days + 719468) / 146097 = era at *
  rcases yearOfEra_bounds hDay with ⟨hYear, hFirst, hLast⟩
  have hBefore :
      daysBefore (yearOfEra day) =
        365 * yearOfEra day + yearOfEra day / 4
          - yearOfEra day / 100 := by
    rw [daysBefore, Nat.div_eq_of_lt hYear, Nat.add_zero]
  refine ⟨yearOfEra day + era * 400,
    day - daysBefore (yearOfEra day), ?_, by omega, ?_⟩
  · rw [daysBefore_era hYear]
    omega
  · rw [hCivil, hBefore]

/- No two numbers of days have one day. -/
theorem civil_inj
    {m n : Nat}
    (hSame : civil m = civil n) :
    m = n := by
  rcases exists_civil_eq m with ⟨year, day, hm, hDay, hCivil⟩
  rcases exists_civil_eq n with
    ⟨year', day', hn, hDay', hCivil'⟩
  rw [hCivil, hCivil'] at hSame
  rcases ofMarch_inj hDay hDay' hSame with ⟨rfl, rfl⟩
  omega

/- Every day is in one of twelve months. -/
theorem month_civil
    (days : Nat) :
    1 ≤ (civil days).month ∧ (civil days).month ≤ 12 := by
  rcases exists_civil_eq days with ⟨year, day, -, hDay, hCivil⟩
  rw [hCivil, ofMarch]
  dsimp only
  split <;> omega

------------------------------------------------------------
-- Words
------------------------------------------------------------

/- Letters and digits alone. -/
def IsWord
    (s : String) : Prop :=
  ∀ c ∈ s.toList, c.isAlphanum = true

theorem isWord_padded
    (width n : Nat) :
    IsWord (padded width n) := by
  intro c hc
  rw [padded, String.toList_ofList, List.mem_append] at hc
  rcases hc with hZero | hDigit
  · rw [List.eq_of_mem_replicate hZero]
    decide
  · have hIs :=
      Nat.isDigit_of_mem_toDigits (by decide) (by decide) hDigit
    simp [Char.isAlphanum, hIs]

/- A name from a list of words, or none at all. -/
theorem isWord_getD
    {names : List String}
    (hNames : names.all fun s => s.toList.all Char.isAlphanum)
    (index : Nat) :
    IsWord (names.getD index "") := by
  rw [List.getD_eq_getElem?_getD]
  cases hName : names[index]? with
  | none => simp [IsWord]
  | some name =>
      have hMem := List.mem_of_getElem? hName
      exact List.all_eq_true.mp
        (List.all_eq_true.mp hNames name hMem)

/- A mark stands in no word. -/
theorem IsWord.not_mem
    {s : String}
    (hWord : IsWord s)
    {mark : Char}
    (hMark : mark.isAlphanum = false) :
    mark ∉ s.toList := by
  intro hMem
  rw [hWord mark hMem] at hMark
  cases hMark

/- Leading zeros do not change what a number is read as. -/
theorem ofDigitChars_padded
    (width n : Nat) :
    Nat.ofDigitChars 10 (padded width n).toList 0 = n := by
  have hZeros :
      ∀ k, Nat.ofDigitChars 10 (List.replicate k '0') 0 = 0 := by
    intro k
    induction k with
    | zero => rfl
    | succ k ih =>
        rw [List.replicate_succ, Nat.ofDigitChars_cons]
        exact ih
  rw [padded, String.toList_ofList, Nat.ofDigitChars_append,
    hZeros]
  exact Nat.ofDigitChars_toDigits (by decide) (by decide)

theorem padded_inj
    {width m n : Nat}
    (hText : padded width m = padded width n) :
    m = n := by
  rw [← ofDigitChars_padded width m, hText,
    ofDigitChars_padded]

------------------------------------------------------------
-- Dates
------------------------------------------------------------

/- The hour, the minute and the second of a time of day. -/
def clock
    (time : Nat) : List String :=
  [padded 2 (time / 3600), padded 2 (time / 60 % 60),
    padded 2 (time % 60)]

theorem isWord_of_mem_clock
    {time : Nat}
    {part : String}
    (hPart : part ∈ clock time) :
    IsWord part := by
  simp only [clock, List.mem_cons, List.not_mem_nil,
    or_false] at hPart
  rcases hPart with rfl | rfl | rfl <;> exact isWord_padded _ _

/- What stands between the blanks of a date. -/
def fields
    (second : Nat) : List String :=
  let day := civil (second / 86400)
  [dayNames.getD (second / 86400 % 7) "" ++ ",",
    padded 2 day.day, monthNames.getD (day.month - 1) "",
    padded 4 day.year,
    ":".intercalate (clock (second % 86400)), "GMT"]

theorem httpDate_eq
    (second : Nat) :
    httpDate second = " ".intercalate (fields second) := by
  simp [httpDate, fields, clock, String.append_assoc]

/- What stands in a field besides words. -/
theorem not_mem_fields
    {mark : Char}
    (hMark : mark.isAlphanum = false)
    (hComma : mark ≠ ',')
    (hColon : mark ≠ ':')
    {second : Nat}
    {field : String}
    (hField : field ∈ fields second) :
    mark ∉ field.toList := by
  have hDay :
      IsWord (dayNames.getD (second / 86400 % 7) "") :=
    isWord_getD (by decide) _
  have hMonth :
      IsWord (monthNames.getD
        ((civil (second / 86400)).month - 1) "") :=
    isWord_getD (by decide) _
  have hZone : IsWord "GMT" :=
    List.all_eq_true.mp (by decide)
  have hTime :
      mark ∉ (":".intercalate
        (clock (second % 86400))).toList :=
    Text.not_mem_intercalate (by simpa using hColon)
      fun _ hPart => (isWord_of_mem_clock hPart).not_mem hMark
  simp only [fields, List.mem_cons, List.not_mem_nil,
    or_false] at hField
  rcases hField with rfl | rfl | rfl | rfl | rfl | rfl
  · rw [String.toList_append, List.mem_append, not_or]
    exact ⟨hDay.not_mem hMark, by simpa using hComma⟩
  · exact (isWord_padded _ _).not_mem hMark
  · exact hMonth.not_mem hMark
  · exact (isWord_padded _ _).not_mem hMark
  · exact hTime
  · exact hZone.not_mem hMark

/- The marks of a date are blanks, commas and colons. -/
theorem not_mem_httpDate
    {mark : Char}
    (hMark : mark.isAlphanum = false)
    (hOther : mark ∉ [' ', ',', ':'])
    (second : Nat) :
    mark ∉ (httpDate second).toList := by
  simp only [List.mem_cons, List.not_mem_nil, or_false,
    not_or] at hOther
  rcases hOther with ⟨hBlank, hComma, hColon⟩
  rw [httpDate_eq]
  exact Text.not_mem_intercalate (by simpa using hBlank)
    fun _ hField => not_mem_fields hMark hComma hColon hField

------------------------------------------------------------
-- Reading dates
------------------------------------------------------------

theorem piecesAt_httpDate
    (second : Nat) :
    Text.piecesAt " " (httpDate second) = fields second := by
  rw [httpDate_eq]
  exact Text.piecesAt_intercalate rfl (List.cons_ne_nil _ _)
    fun _ hField =>
      not_mem_fields (by decide) (by decide) (by decide) hField

theorem piecesAt_clock
    (time : Nat) :
    Text.piecesAt ":" (":".intercalate (clock time)) =
      clock time :=
  Text.piecesAt_intercalate rfl (List.cons_ne_nil _ _)
    fun _ hPart => (isWord_of_mem_clock hPart).not_mem (by decide)

/- The clock tells the time of day. -/
theorem clock_inj
    {time time' : Nat}
    (hSame :
      ":".intercalate (clock time) =
        ":".intercalate (clock time')) :
    time = time' := by
  have hClock : clock time = clock time' := by
    rw [← piecesAt_clock, hSame, piecesAt_clock]
  simp only [clock, List.cons.injEq, and_true] at hClock
  have hHour := padded_inj hClock.1
  have hMinute := padded_inj hClock.2.1
  have hSecond := padded_inj hClock.2.2
  omega

theorem monthName_inj
    {m n : Nat}
    (hm : 1 ≤ m ∧ m ≤ 12)
    (hn : 1 ≤ n ∧ n ≤ 12)
    (hName :
      monthNames.getD (m - 1) "" = monthNames.getD (n - 1) "") :
    m = n := by
  have hAll :
      ∀ i j : Fin 12,
        monthNames.getD i "" = monthNames.getD j "" → i = j := by
    decide
  have hIndex :=
    hAll ⟨m - 1, by omega⟩ ⟨n - 1, by omega⟩ hName
  have hSame := congrArg Fin.val hIndex
  dsimp only at hSame
  omega

/- A date tells the second that it was written for. -/
theorem httpDate_inj
    {s t : Nat}
    (hDate : httpDate s = httpDate t) :
    s = t := by
  have hFields : fields s = fields t := by
    rw [← piecesAt_httpDate, hDate, piecesAt_httpDate]
  simp only [fields, List.cons.injEq, and_true] at hFields
  rcases hFields with ⟨-, hDay, hMonth, hYear, hTime⟩
  have hCivil : civil (s / 86400) = civil (t / 86400) :=
    Day.eq_of_parts (padded_inj hYear)
      (monthName_inj (month_civil _) (month_civil _) hMonth)
      (padded_inj hDay)
  have hDays := civil_inj hCivil
  have hTimes := clock_inj hTime
  omega

end Courier.Calendar
