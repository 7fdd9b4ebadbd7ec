/-
  DAYS IN ORDER — the numbering of days leaves none out, and dates compare as their texts do.

  1. **No day left out** — each number before the end of the calendar is the number of a date: its
     year is the one whose days hold it (`exists_year`), and its month the one whose days hold the
     rest (`exists_month`).  With the way back, a date has a day number exactly if it is found there
     (`ofDayNumber?_eq_some_iff`).
  2. **Order** — an earlier year, or an earlier month of the same year, or an earlier day of the
     same month, is an earlier day (`dayNumber_lt_of_fields`).
  3. **Texts** — year, month and day have fixed places in this order, so that the texts of two dates
     are ranked as their day numbers (`ranked_text`).
-/
import QueryFilter.Proofs.Text.FixedWidth
import QueryFilter.Proofs.Time.Calendar

namespace QueryFilter

open Text (Ranked fixedWidth ranked_fixedWidth)

/-! ## No day left out -/

theorem yearLength_pos (year : Nat) : 0 < yearLength year := by
  rw [yearLength_eq]
  split <;> decide

theorem daysBeforeYear_le {year year' : Nat} (h : year ≤ year') :
    daysBeforeYear year ≤ daysBeforeYear year' := by
  induction h with
  | refl => exact Nat.le_refl _
  | step _ ih => exact Nat.le_trans ih (daysBeforeYear_le_succ _)

/-- **Each number is one of a year's days.** -/
theorem exists_year (n : Nat) :
    ∃ year, 1 ≤ year ∧ daysBeforeYear year ≤ n ∧ n < daysBeforeYear (year + 1) := by
  induction n with
  | zero => exact ⟨1, by decide⟩
  | succ n ih =>
    obtain ⟨year, hyear, hlow, hhigh⟩ := ih
    rcases Nat.lt_or_ge (n + 1) (daysBeforeYear (year + 1)) with hin | hnext
    · exact ⟨year, hyear, by omega, hin⟩
    · have hpos := yearLength_pos (year + 1)
      have hend : daysBeforeYear (year + 1 + 1) =
          daysBeforeYear (year + 1) + yearLength (year + 1) :=
        daysBeforeYear_succ (by omega)
      exact ⟨year + 1, by omega, hnext, by omega⟩

/-- **Each number below the sum of all lengths is one of a month's days.** -/
theorem exists_month {lengths : List Nat} {n : Nat} (h : n < lengths.foldl (· + ·) 0) :
    ∃ months days, months < lengths.length ∧ days < lengths.getD months 0 ∧
      n = (lengths.take months).foldl (· + ·) 0 + days := by
  induction lengths generalizing n with
  | nil => exact absurd h (Nat.not_lt_zero n)
  | cons length lengths ih =>
    rw [foldl_add_cons] at h
    rcases Nat.lt_or_ge n length with hin | hnext
    · exact ⟨0, n, Nat.succ_pos _, hin, (Nat.zero_add n).symm⟩
    · obtain ⟨months, days, hmonths, hdays, hn⟩ := ih (n := n - length) (by omega)
      refine ⟨months + 1, days, Nat.succ_lt_succ hmonths, hdays, ?_⟩
      rw [List.take_succ_cons, foldl_add_cons]
      omega

namespace Date

/-- The number of days in the calendar. -/
def dayCount : Nat := daysBeforeYear 10000

/-- **Each number before the end of the calendar is the number of a date.** -/
theorem exists_dayNumber {n : Nat} (h : n < dayCount) : ∃ d : Date, d.dayNumber = n := by
  obtain ⟨year, hyear, hlow, hhigh⟩ := exists_year n
  have hlast : year ≤ 9999 := by
    rcases Nat.lt_or_ge 9999 year with hlate | hlast
    · have hend : dayCount ≤ daysBeforeYear year := daysBeforeYear_le hlate
      omega
    · exact hlast
  rw [daysBeforeYear_succ hyear] at hhigh
  have hrest : n - daysBeforeYear year < (monthLengths year).foldl (· + ·) 0 := by
    show _ < yearLength year
    omega
  obtain ⟨months, days, hmonths, hdays, hn⟩ := exists_month hrest
  have hvalid : Valid year (months + 1) (days + 1) := by
    refine ⟨hyear, hlast, by omega, hmonths, by omega, ?_⟩
    rw [daysInMonth, Nat.add_sub_cancel]
    exact hdays
  refine ⟨⟨year, months + 1, days + 1, hvalid⟩, ?_⟩
  rw [dayNumber, daysBeforeMonth]
  simp only [Nat.add_sub_cancel]
  omega

/-- Behind the calendar there is no date. -/
theorem ofDayNumber?_eq_none {n : Nat} (h : dayCount ≤ n) : ofDayNumber? n = none := by
  obtain ⟨year, hyear, hlow, hhigh⟩ := exists_year n
  have hlate : 9999 < year := by
    rcases Nat.lt_or_ge 9999 year with hlate | hlast
    · exact hlate
    · have hend : daysBeforeYear (year + 1) ≤ dayCount := daysBeforeYear_le (by omega)
      omega
  unfold ofDayNumber?
  rw [yearOfDay_eq hyear hlow hhigh]
  refine dif_neg ?_
  rintro ⟨-, hlast, -⟩
  omega

/-- **A date is found at its day number, and nowhere else.** -/
theorem ofDayNumber?_eq_some_iff {n : Nat} {d : Date} :
    ofDayNumber? n = some d ↔ d.dayNumber = n := by
  constructor
  · intro h
    rcases Nat.lt_or_ge n dayCount with hin | hout
    · obtain ⟨d', rfl⟩ := exists_dayNumber hin
      rw [ofDayNumber?_dayNumber, Option.some.injEq] at h
      rw [h]
    · rw [ofDayNumber?_eq_none hout] at h
      cases h
  · rintro rfl
    exact d.ofDayNumber?_dayNumber

/-! ## Order -/

/-- The fields of a date in the order in which they count. -/
def code (d : Date) : Nat := (d.year * 100 + d.month) * 100 + d.day

/-- No month has more than 31 days. -/
theorem day_le (d : Date) : d.day ≤ 31 := by
  obtain ⟨-, -, -, -, -, hday⟩ := d.valid
  have hall : ∀ length ∈ monthLengths d.year, length ≤ 31 := by
    unfold monthLengths
    cases isLeapYear d.year <;> decide
  have hlength : daysInMonth d.year d.month ≤ 31 := by
    rw [daysInMonth, List.getD_eq_getElem?_getD]
    cases h : (monthLengths d.year)[d.month - 1]? with
    | none => exact Nat.zero_le 31
    | some length => exact hall length (List.mem_of_getElem? h)
  exact Nat.le_trans hday hlength

/-- A month ends before a later one of the same year begins. -/
theorem daysBeforeMonth_add_le (year : Nat) {month month' : Nat} (hpos : 1 ≤ month)
    (h : month < month') :
    daysBeforeMonth year month + daysInMonth year month ≤ daysBeforeMonth year month' := by
  have hlt : month - 1 < month' - 1 := by omega
  have hle := take_add_getD_le ((monthLengths year).take (month' - 1)) (month - 1)
  rw [List.take_take, Nat.min_eq_left (Nat.le_of_lt hlt), List.getD_eq_getElem?_getD,
    List.getElem?_take_of_lt hlt, ← List.getD_eq_getElem?_getD] at hle
  exact hle

/-- **The first field that differs decides which day comes first.** -/
theorem dayNumber_lt_of_fields {d d' : Date}
    (h : d.year < d'.year ∨ d.year = d'.year ∧ (d.month < d'.month ∨
      d.month = d'.month ∧ d.day < d'.day)) : d.dayNumber < d'.dayNumber := by
  obtain ⟨-, -, hmonth, -, hday, hlast⟩ := d.valid
  rcases h with hyear | ⟨hyear, hmonth' | ⟨hmonth', hday'⟩⟩
  · have hend := d.dayNumber_lt
    have hstart : daysBeforeYear (d.year + 1) ≤ daysBeforeYear d'.year := daysBeforeYear_le hyear
    have hafter : daysBeforeYear d'.year ≤ d'.dayNumber := by
      unfold dayNumber
      omega
    omega
  · have hend := daysBeforeMonth_add_le d.year hmonth hmonth'
    unfold dayNumber
    rw [← hyear]
    omega
  · unfold dayNumber
    rw [← hyear, ← hmonth']
    omega

/-- Dates compare as their fields do. -/
theorem code_lt_iff (d d' : Date) :
    (d.code < d'.code ↔ d.dayNumber < d'.dayNumber) ∧
      (d.code = d'.code ↔ d.dayNumber = d'.dayNumber) := by
  have hbounds : ∀ d : Date, d.month ≤ 12 ∧ d.day ≤ 31 := fun d => ⟨d.valid.2.2.2.1, d.day_le⟩
  have hlt : ∀ {d d' : Date}, d.code < d'.code → d.dayNumber < d'.dayNumber := by
    intro d d' h
    obtain ⟨hmonth, hday⟩ := hbounds d
    obtain ⟨hmonth', hday'⟩ := hbounds d'
    unfold code at h
    exact dayNumber_lt_of_fields (by omega)
  have heq : d.code = d'.code → d.dayNumber = d'.dayNumber := by
    intro h
    obtain ⟨hmonth, hday⟩ := hbounds d
    obtain ⟨hmonth', hday'⟩ := hbounds d'
    unfold code at h
    have hyear : d.year = d'.year := by omega
    have hmonths : d.month = d'.month := by omega
    have hdays : d.day = d'.day := by omega
    rw [dayNumber, dayNumber, hyear, hmonths, hdays]
  rcases Nat.lt_trichotomy d.code d'.code with h | h | h
  · have := hlt h
    omega
  · have := heq h
    omega
  · have := hlt h
    omega

/-! ## Texts -/

/-- **The texts of dates compare as the dates do.** -/
theorem ranked_text (d d' : Date) : Ranked d.text d'.text d.dayNumber d'.dayNumber := by
  have hbounds : ∀ d : Date, d.year < 10 ^ 4 ∧ d.month < 10 ^ 2 ∧ d.day < 10 ^ 2 := by
    intro d
    obtain ⟨-, hyear, -, hmonth, -, -⟩ := d.valid
    have hday := d.day_le
    omega
  obtain ⟨hyear, hmonth, hday⟩ := hbounds d
  obtain ⟨hyear', hmonth', hday'⟩ := hbounds d'
  have hy := ranked_fixedWidth (by decide) hyear hyear'
  have hm := (ranked_fixedWidth (by decide) hmonth hmonth').cons '-'
  have hd := (ranked_fixedWidth (by decide) hday hday').cons '-'
  obtain ⟨hlt, heq⟩ := code_lt_iff d d'
  exact ((hy.append hm hmonth hmonth').append hd hday hday').congr hlt heq

end Date

end QueryFilter
