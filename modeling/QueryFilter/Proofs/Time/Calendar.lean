/-
  DAY NUMBERS — every date is found again from the number of days before it, and so has a text.

  1. **Years** — the number of days before the next year is larger by the length of the year
     (`daysBeforeYear_succ`), and the guess from the mean length of a year is off by one at most, so
     that the year of a day number is the one whose days hold it (`yearOfDay_eq`).
  2. **Months** — taking month lengths away stops at the month whose days are not all passed
     (`passMonths_take`).
  3. **Dates** — the two together (`ofDayNumber?_dayNumber`).  Midnight is at the start of the day
     of a date, so that a date has a timestamp, whatever date it is (`text?_instant_isSome`).
-/
import QueryFilter.Time.Timestamp

namespace QueryFilter

/-! ## Years -/

/-- The number of days in a year. -/
def yearLength (year : Nat) : Nat := (monthLengths year).foldl (· + ·) 0

theorem yearLength_eq (year : Nat) : yearLength year = if isLeapYear year then 366 else 365 := by
  unfold yearLength monthLengths
  cases isLeapYear year <;> rfl

/-- A leap year is a multiple of four, and of four hundred if of a hundred. -/
theorem isLeapYear_iff {year : Nat} :
    isLeapYear year = true ↔ year % 4 = 0 ∧ (year % 100 ≠ 0 ∨ year % 400 = 0) := by
  simp [isLeapYear]

/-- **A year ends after its length.** -/
theorem daysBeforeYear_succ {year : Nat} (hyear : 1 ≤ year) :
    daysBeforeYear (year + 1) = daysBeforeYear year + yearLength year := by
  obtain ⟨past, rfl⟩ : ∃ past, year = past + 1 := ⟨year - 1, by omega⟩
  have hless : past / 100 ≤ past / 4 := by omega
  rw [yearLength_eq]
  show 365 * (past + 1) + (past + 1) / 4 - (past + 1) / 100 + (past + 1) / 400 =
    365 * past + past / 4 - past / 100 + past / 400 + _
  -- which of the three quotients the year raises is what makes it a leap year or not
  by_cases h₄ : (past + 1) % 4 = 0
  · rw [Nat.succ_div_of_mod_eq_zero h₄]
    by_cases h₁₀₀ : (past + 1) % 100 = 0
    · rw [Nat.succ_div_of_mod_eq_zero h₁₀₀]
      by_cases h₄₀₀ : (past + 1) % 400 = 0
      · rw [Nat.succ_div_of_mod_eq_zero h₄₀₀, if_pos (isLeapYear_iff.2 ⟨h₄, Or.inr h₄₀₀⟩)]
        omega
      · rw [Nat.succ_div_of_mod_ne_zero h₄₀₀, if_neg]
        · omega
        · rw [isLeapYear_iff]
          exact fun h => h.2.elim (fun h => h h₁₀₀) h₄₀₀
    · have h₄₀₀ : (past + 1) % 400 ≠ 0 := by omega
      rw [Nat.succ_div_of_mod_ne_zero h₁₀₀, Nat.succ_div_of_mod_ne_zero h₄₀₀,
        if_pos (isLeapYear_iff.2 ⟨h₄, Or.inl h₁₀₀⟩)]
      omega
  · have h₁₀₀ : (past + 1) % 100 ≠ 0 := by omega
    have h₄₀₀ : (past + 1) % 400 ≠ 0 := by omega
    rw [Nat.succ_div_of_mod_ne_zero h₄, Nat.succ_div_of_mod_ne_zero h₁₀₀,
      Nat.succ_div_of_mod_ne_zero h₄₀₀, if_neg]
    · omega
    · rw [isLeapYear_iff]
      exact fun h => h₄ h.1

theorem daysBeforeYear_le_succ (year : Nat) : daysBeforeYear year ≤ daysBeforeYear (year + 1) := by
  cases year with
  | zero => exact Nat.zero_le _
  | succ past =>
    rw [daysBeforeYear_succ (Nat.succ_pos past)]
    exact Nat.le_add_right _ _

/-- **The year of a day number is the one whose days hold it.** -/
theorem yearOfDay_eq {year n : Nat} (hyear : 1 ≤ year) (hlow : daysBeforeYear year ≤ n)
    (hhigh : n < daysBeforeYear (year + 1)) : Date.yearOfDay n = year := by
  -- the mean year has 146097 / 400 days, and a year starts less than two days from its multiple
  have hguess : year ≤ n * 400 / 146097 + 2 ∧ n * 400 / 146097 ≤ year := by
    unfold daysBeforeYear at hlow hhigh
    omega
  obtain ⟨hbelow, habove⟩ := hguess
  unfold Date.yearOfDay
  generalize n * 400 / 146097 = past at hbelow habove ⊢
  have hcases : past + 2 = year ∨ past + 1 = year ∨ past = year := by omega
  rcases hcases with rfl | rfl | rfl
  · have hstart : ¬ n < daysBeforeYear (past + 1) :=
      Nat.not_lt.2 (Nat.le_trans (daysBeforeYear_le_succ (past + 1)) hlow)
    simp only
    rw [if_neg hstart, if_pos hlow]
  · simp only
    rw [if_neg (Nat.not_lt.2 hlow), if_neg (Nat.not_le.2 hhigh)]
  · simp only
    rw [if_pos hhigh]
    exact Nat.add_sub_cancel past 1

/-! ## Months -/

theorem foldl_add_cons (length : Nat) (lengths : List Nat) :
    (length :: lengths).foldl (· + ·) 0 = length + lengths.foldl (· + ·) 0 := by
  have hstart : lengths.foldl (· + ·) (length + 0) = length + lengths.foldl (· + ·) 0 :=
    List.foldl_assoc
  rw [List.foldl_cons, Nat.zero_add]
  exact hstart

/-- Months that have passed, and days of the next one. -/
theorem passMonths_take {lengths : List Nat} {months days : Nat}
    (h : days < lengths.getD months 0) :
    Date.passMonths lengths ((lengths.take months).foldl (· + ·) 0 + days) = (months, days) := by
  induction lengths generalizing months with
  | nil =>
    rw [List.getD_nil] at h
    exact absurd h (Nat.not_lt_zero days)
  | cons length lengths ih =>
    cases months with
    | zero =>
      have hlt : 0 + days < length := by
        rw [Nat.zero_add]
        exact h
      show Date.passMonths (length :: lengths) (0 + days) = _
      rw [Date.passMonths, if_pos hlt, Nat.zero_add]
    | succ months =>
      have hrest : Date.passMonths lengths ((lengths.take months).foldl (· + ·) 0 + days) =
          (months, days) := ih h
      rw [List.take_succ_cons, foldl_add_cons, Nat.add_assoc, Date.passMonths,
        if_neg (by omega), Nat.add_sub_cancel_left, hrest]

/-- A month ends before the year does. -/
theorem take_add_getD_le (lengths : List Nat) (months : Nat) :
    (lengths.take months).foldl (· + ·) 0 + lengths.getD months 0 ≤ lengths.foldl (· + ·) 0 := by
  induction lengths generalizing months with
  | nil =>
    rw [List.take_nil, List.getD_nil]
    exact Nat.le_refl 0
  | cons length lengths ih =>
    rw [foldl_add_cons]
    cases months with
    | zero =>
      show 0 + length ≤ _
      omega
    | succ months =>
      have hrest := ih months
      rw [List.take_succ_cons, foldl_add_cons, List.getD_cons_succ]
      omega

/-! ## Dates -/

namespace Date

/-- The day of a date, counted from zero, is one of its month. -/
theorem day_lt (d : Date) : d.day - 1 < (monthLengths d.year).getD (d.month - 1) 0 := by
  obtain ⟨-, -, -, -, hday, hlast⟩ := d.valid
  unfold daysInMonth at hlast
  omega

/-- The day number of a date is one of its year. -/
theorem dayNumber_lt (d : Date) : d.dayNumber < daysBeforeYear (d.year + 1) := by
  have hday := d.day_lt
  have hmonth := take_add_getD_le (monthLengths d.year) (d.month - 1)
  rw [daysBeforeYear_succ d.valid.1]
  unfold dayNumber daysBeforeMonth yearLength
  omega

/-- **A date is found again from its day number.** -/
theorem ofDayNumber?_dayNumber (d : Date) : ofDayNumber? d.dayNumber = some d := by
  have hlow : daysBeforeYear d.year ≤ d.dayNumber := by
    unfold dayNumber
    omega
  have hyear : yearOfDay d.dayNumber = d.year := yearOfDay_eq d.valid.1 hlow d.dayNumber_lt
  have hpassed : d.dayNumber - daysBeforeYear d.year =
      ((monthLengths d.year).take (d.month - 1)).foldl (· + ·) 0 + (d.day - 1) := by
    unfold dayNumber daysBeforeMonth
    omega
  have hmonth : d.month - 1 + 1 = d.month := Nat.sub_add_cancel d.valid.2.2.1
  have hday : d.day - 1 + 1 = d.day := Nat.sub_add_cancel d.valid.2.2.2.2.1
  unfold ofDayNumber?
  simp only [hyear, hpassed, passMonths_take d.day_lt, hmonth, hday]
  exact dif_pos d.valid

/-- The instant of a date is that many days after the first one. -/
theorem instant_eq (d : Date) :
    d.instant = ((d.dayNumber * (1000 * Instant.perDay) : Nat) : Int) := by
  simp [instant, DateTime.instant, TimeOfDay.midnight, TimeOfDay.microseconds]

/-- **Every date has a timestamp.** -/
theorem text?_instant_isSome (d : Date) : d.instant.text?.isSome = true := by
  have hstep : 0 < 1000 * Instant.perDay := by decide
  have hday : d.dayNumber * (1000 * Instant.perDay) / 1000 / Instant.perDay = d.dayNumber := by
    rw [Nat.div_div_eq_div_mul, Nat.mul_div_cancel _ hstep]
  have hpast : ¬ ((d.dayNumber * (1000 * Instant.perDay) : Nat) : Int) < 0 :=
    Int.not_lt.2 (Int.natCast_nonneg _)
  rw [instant_eq, Instant.text?, if_neg hpast]
  simp only [Int.toNat_natCast, hday, ofDayNumber?_dayNumber]
  rfl

end Date

end QueryFilter
