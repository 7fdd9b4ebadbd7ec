/-
  TIMES IN ORDER — timestamps compare as the points in time that they show.

  1. **Specification** — a point in time is in the calendar if it is on a day of the years 1 to 9999
     (`Instant.InCalendar`).  A timestamp has 24 characters, digits and marks at fixed places
     (`Instant.form`), and its fields are those of a date and a time (`DateTime.stamp`).
  2. **Text** — the number of days up to a point in time finds its date, and what is left of the day
     its clock, so that a text is there exactly in the calendar (`Instant.text?_cases`), and shows
     the point in time cut to milliseconds (`exists_stamp`).
  3. **Order** — the clock counts in a mixed radix (`ranked_clockText`), and a day is longer than
     any clock (`ranked_text?`).

  All together, for dates and for date-times with any offset: `Argument.write_in_order`.
-/
import Mathlib.Data.List.Forall2
import QueryFilter.Proofs.Argument.Plain
import QueryFilter.Proofs.Time.DayOrder

namespace QueryFilter

open Text (Ranked fixedWidth ranked_fixedWidth length_fixedWidth)

/-! ## The specification -/

/-- The point in time that a literal denotes, if it denotes one. -/
def Literal.instant? : Literal → Option Instant
  | .dateTime t => some t.instant
  | .date d => some d.instant
  | _ => none

/-- A text in a form: digits where the form has nines, and the marks of the form. -/
def Text.Fits (form s : Text) : Prop :=
  List.Forall₂ (fun f c => if f = '9' then c.isDigit = true else c = f) form s

/-- The fields of a date and a time up to the milliseconds. -/
def DateTime.stamp (u : DateTime) : Text :=
  fixedWidth 4 u.date.year ++ '-' :: fixedWidth 2 u.date.month ++ '-' :: fixedWidth 2 u.date.day ++
    'T' :: (fixedWidth 2 u.time.hour ++ ':' :: fixedWidth 2 u.time.minute ++
      ':' :: fixedWidth 2 u.time.second ++ '.' :: fixedWidth 3 (u.time.microsecond / 1000)) ++ ['Z']

namespace Instant

/-- The form of a timestamp. -/
def form : Text := "9999-99-99T99:99:99.999Z".toList

/-- A point in time on a day of the years 1 to 9999. -/
def InCalendar (t : Instant) : Prop := ∃ d : Date, d.instant ≤ t ∧ t < d.instant + 1000 * perDay

/-! ## Text -/

/-- The day of a point in time in the calendar has the number of days up to it. -/
theorem inCalendar_iff {t : Instant} :
    t.InCalendar ↔ 0 ≤ t ∧ ∃ d : Date, d.dayNumber = t.toNat / 1000 / perDay := by
  unfold InCalendar
  constructor
  · rintro ⟨d, hlow, hhigh⟩
    rw [Date.instant_eq] at hlow hhigh
    unfold perDay Instant at *
    exact ⟨by omega, d, by omega⟩
  · rintro ⟨hpos, d, hd⟩
    refine ⟨d, ?_⟩
    rw [Date.instant_eq]
    unfold perDay Instant at *
    omega

/-- **A point in time in the calendar has the text of its day and its clock, and any other has
    none.** -/
theorem text?_cases (t : Instant) :
    (t.InCalendar ∧ ∃ d : Date, d.dayNumber = t.toNat / 1000 / perDay ∧
        t.text? = some (d.text ++ 'T' :: clockText (t.toNat / 1000 % perDay) ++ ['Z'])) ∨
      ¬ t.InCalendar ∧ t.text? = none := by
  unfold text?
  by_cases hcal : t.InCalendar
  · obtain ⟨hpos, d, hd⟩ := inCalendar_iff.1 hcal
    refine Or.inl ⟨hcal, d, hd, ?_⟩
    rw [if_neg (Int.not_lt.2 hpos)]
    simp only [Date.ofDayNumber?_eq_some_iff.2 hd, Option.map_some]
  · refine Or.inr ⟨hcal, ?_⟩
    by_cases hneg : t < 0
    · rw [if_pos hneg]
    · have hnone : Date.ofDayNumber? (t.toNat / 1000 / perDay) = none := by
        cases h : Date.ofDayNumber? (t.toNat / 1000 / perDay) with
        | none => rfl
        | some d =>
          have hd := Date.ofDayNumber?_eq_some_iff.1 h
          exact absurd (inCalendar_iff.2 ⟨Int.not_lt.1 hneg, d, hd⟩) hcal
      rw [if_neg hneg]
      simp only [hnone, Option.map_none]

/-- **A timestamp shows the fields of the point in time, cut to milliseconds.** -/
theorem exists_stamp {t : Instant} {d : Date} (hpos : 0 ≤ t)
    (hd : d.dayNumber = t.toNat / 1000 / perDay) :
    ∃ u : DateTime, u.offset = none ∧ u.instant = t / 1000 * 1000 ∧
      u.stamp = d.text ++ 'T' :: clockText (t.toNat / 1000 % perDay) ++ ['Z'] := by
  have hms : t.toNat / 1000 % perDay < 86400000 := Nat.mod_lt _ (by decide)
  have hsplit : d.dayNumber * perDay + t.toNat / 1000 % perDay = t.toNat / 1000 := by
    rw [hd]
    exact Nat.div_add_mod' _ _
  generalize t.toNat / 1000 % perDay = ms at hms hsplit ⊢
  have hvalid : ms / 3600000 < 24 ∧ ms / 60000 % 60 < 60 ∧ ms / 1000 % 60 < 60 ∧
      ms % 1000 * 1000 < 1000000 := by omega
  refine ⟨⟨d, ⟨ms / 3600000, ms / 60000 % 60, ms / 1000 % 60, ms % 1000 * 1000, hvalid⟩, none⟩, rfl,
    ?_, ?_⟩
  · simp only [DateTime.instant, TimeOfDay.microseconds, Option.map_none, Option.getD_none]
    unfold perDay Instant at *
    omega
  · simp only [DateTime.stamp, Date.text, clockText, Nat.mul_div_cancel _ (show 0 < 1000 by decide)]

end Instant

/-! ## Form -/

namespace Text.Fits

theorem append {f f' s s' : Text} (h : Fits f s) (h' : Fits f' s') : Fits (f ++ f') (s ++ s') :=
  List.rel_append h h'

/-- A mark of the form is the mark in the text. -/
theorem cons {f s : Text} {c : Char} (hc : c ≠ '9') (h : Fits f s) : Fits (c :: f) (c :: s) :=
  List.Forall₂.cons (by rw [if_neg hc]) h

/-- A number that fits into a width has as many digits as the form has nines. -/
theorem fixedWidth {k n : Nat} (hk : 0 < k) (hn : n < 10 ^ k) :
    Fits (List.replicate k '9') (Text.fixedWidth k n) := by
  refine List.forall₂_iff_get.2 ⟨?_, ?_⟩
  · rw [List.length_replicate, length_fixedWidth hk hn]
  · intro i h₁ h₂
    rw [List.get_eq_getElem, List.getElem_replicate, if_pos rfl]
    exact isDigit_of_mem_fixedWidth (List.get_mem _ _)

end Text.Fits

/-- **A stamp has the form of a timestamp.** -/
theorem DateTime.fits_stamp (u : DateTime) : Text.Fits Instant.form u.stamp := by
  obtain ⟨hhour, hminute, hsecond, hmicro⟩ := u.time.valid
  obtain ⟨-, hyear, -, hmonth, -, -⟩ := u.date.valid
  have hday := u.date.day_le
  have two : ∀ {n : Nat}, n < 10 ^ 2 → Text.Fits "99".toList (fixedWidth 2 n) :=
    fun hn => Text.Fits.fixedWidth (by decide) hn
  have year : Text.Fits "9999".toList (fixedWidth 4 u.date.year) :=
    Text.Fits.fixedWidth (k := 4) (by decide) (by omega)
  have month : Text.Fits "99".toList (fixedWidth 2 u.date.month) := two (by omega)
  have day : Text.Fits "99".toList (fixedWidth 2 u.date.day) := two (by omega)
  have hour : Text.Fits "99".toList (fixedWidth 2 u.time.hour) := two (by omega)
  have minute : Text.Fits "99".toList (fixedWidth 2 u.time.minute) := two (by omega)
  have second : Text.Fits "99".toList (fixedWidth 2 u.time.second) := two (by omega)
  have milli : Text.Fits "999".toList (fixedWidth 3 (u.time.microsecond / 1000)) :=
    Text.Fits.fixedWidth (k := 3) (by decide) (by omega)
  have date := (year.append (month.cons (c := '-') (by decide))).append
    (day.cons (c := '-') (by decide))
  have clock := ((hour.append (minute.cons (c := ':') (by decide))).append
    (second.cons (c := ':') (by decide))).append (milli.cons (c := '.') (by decide))
  exact (date.append (clock.cons (c := 'T') (by decide))).append
    (Text.Fits.cons (c := 'Z') (by decide) List.Forall₂.nil)

/-! ## Order -/

namespace Instant

/-- **Clocks compare as the milliseconds that have passed.** -/
theorem ranked_clockText {m m' : Nat} (hm : m < perDay) (hm' : m' < perDay) :
    Ranked (clockText m) (clockText m') m m' := by
  unfold perDay at hm hm'
  have two : ∀ {n n' : Nat}, n < 10 ^ 2 → n' < 10 ^ 2 →
      Ranked (fixedWidth 2 n) (fixedWidth 2 n') n n' := ranked_fixedWidth (by decide)
  have hhour : Ranked _ _ (m / 3600000) (m' / 3600000) := two (by omega) (by omega)
  have hminute : Ranked _ _ (m / 60000 % 60) (m' / 60000 % 60) :=
    (two (by omega) (by omega)).cons ':'
  have hsecond : Ranked _ _ (m / 1000 % 60) (m' / 1000 % 60) := (two (by omega) (by omega)).cons ':'
  have hmilli : Ranked ('.' :: fixedWidth 3 (m % 1000)) ('.' :: fixedWidth 3 (m' % 1000)) _ _ :=
    (ranked_fixedWidth (by decide) (by omega) (by omega)).cons '.'
  have hclock := ((hhour.append hminute (k := 60) (by omega) (by omega)).append hsecond (k := 60)
    (by omega) (by omega)).append hmilli (k := 1000) (by omega) (by omega)
  exact hclock.congr (by omega) (by omega)

/-- **Timestamps compare as the milliseconds up to the points in time.** -/
theorem ranked_text? {t t' : Instant} {w w' : Text} (h : t.text? = some w)
    (h' : t'.text? = some w') : Ranked w w' (t.toNat / 1000) (t'.toNat / 1000) := by
  have hparts : ∀ {t : Instant} {w : Text}, t.text? = some w →
      ∃ d : Date, d.dayNumber = t.toNat / 1000 / perDay ∧
        w = d.text ++ 'T' :: clockText (t.toNat / 1000 % perDay) ++ ['Z'] := by
    intro t w h
    rcases text?_cases t with ⟨-, d, hd, htext⟩ | ⟨-, hnone⟩
    · exact ⟨d, hd, Option.some.inj (h.symm.trans htext)⟩
    · rw [hnone] at h
      cases h
  obtain ⟨d, hd, rfl⟩ := hparts h
  obtain ⟨d', hd', rfl⟩ := hparts h'
  have hlt : ∀ n : Nat, n % perDay < perDay := fun n => Nat.mod_lt n (by decide)
  have hclock := (ranked_clockText (hlt (t.toNat / 1000)) (hlt (t'.toNat / 1000))).cons 'T'
  have htext := (Date.ranked_text d d').append hclock (hlt _) (hlt _)
  rw [hd, hd', Nat.div_add_mod', Nat.div_add_mod'] at htext
  -- the final mark is the same in both
  have hmark : Ranked ['Z'] ['Z'] 0 0 := ⟨rfl, by simp, by simp⟩
  exact (htext.append hmark (k := 1) (by decide) (by decide)).congr (by omega) (by omega)

end Instant

/-! ## All together -/

/-- What a point in time is written as. -/
theorem Argument.write_of_instant? {v : Literal} {t : Instant} (h : v.instant? = some t) :
    Argument.write (.literal v) = match t.text? with
      | some w => .ok w
      | none => .error .dateRange := by
  cases v with
  | dateTime u =>
    cases h
    show (Literal.orElse .dateRange u.instant.text?).mapError _ = _
    cases u.instant.text? <;> rfl
  | date d =>
    cases h
    show (Literal.orElse .dateRange d.instant.text?).mapError _ = _
    cases d.instant.text? <;> rfl
  | bool | int | double | decimal | text | raw => cases h

/-- **The order of timestamps is the order of time.**  A date, or a date-time with or without an
    offset, has a text exactly if its point in time is in the calendar: 24 characters in a fixed
    form, the fields of that point in time cut to milliseconds.  And two such texts compare,
    character by character, as the two points in time cut to milliseconds do. -/
theorem Argument.write_in_order :
    (∀ (v : Literal) (t : Instant), v.instant? = some t →
      (t.InCalendar → ∃ (w : Text) (u : DateTime), Argument.write (.literal v) = .ok w ∧
        w.length = 24 ∧ Text.Fits Instant.form w ∧ u.offset = none ∧ u.instant = t / 1000 * 1000 ∧
        w = u.stamp) ∧
      (¬ t.InCalendar → Argument.write (.literal v) = .error .dateRange)) ∧
    ∀ (v v' : Literal) (t t' : Instant) (w w' : Text), v.instant? = some t → v'.instant? = some t' →
      Argument.write (.literal v) = .ok w → Argument.write (.literal v') = .ok w' →
        (w < w' ↔ t / 1000 < t' / 1000) ∧ (w = w' ↔ t / 1000 = t' / 1000) := by
  constructor
  · intro v t hv
    rw [write_of_instant? hv]
    rcases Instant.text?_cases t with ⟨hcal, d, hd, htext⟩ | ⟨hout, hnone⟩
    · refine ⟨fun _ => ?_, fun hout => absurd hcal hout⟩
      obtain ⟨u, hoffset, hinstant, hstamp⟩ :=
        Instant.exists_stamp (Instant.inCalendar_iff.1 hcal).1 hd
      have hfits := u.fits_stamp
      exact ⟨u.stamp, u, by rw [htext, hstamp], hfits.length_eq.symm, hfits, hoffset, hinstant, rfl⟩
    · exact ⟨fun hcal => absurd hcal hout, fun _ => by rw [hnone]⟩
  · intro v v' t t' w w' hv hv' hw hw'
    have hsome : ∀ {v : Literal} {t : Instant} {w : Text}, v.instant? = some t →
        Argument.write (.literal v) = .ok w → t.text? = some w ∧ 0 ≤ t := by
      intro v t w hv hw
      rw [write_of_instant? hv] at hw
      rcases Instant.text?_cases t with ⟨hcal, -⟩ | ⟨-, hnone⟩
      · split at hw
        · rename_i w' htext
          cases hw
          exact ⟨htext, (Instant.inCalendar_iff.1 hcal).1⟩
        · cases hw
      · rw [hnone] at hw
        cases hw
    obtain ⟨htext, hpos⟩ := hsome hv hw
    obtain ⟨htext', hpos'⟩ := hsome hv' hw'
    obtain ⟨-, hlt, heq⟩ := Instant.ranked_text? htext htext'
    constructor
    · rw [hlt]
      unfold Instant at *
      omega
    · rw [heq]
      unfold Instant at *
      omega

/-- Half past midnight on the first of March one hour east of universal time: there it
    is still the leap day. -/
def DateTime.leapSample : DateTime :=
  ⟨⟨2024, 3, 1, by decide⟩, ⟨0, 30, 0, 999, by decide⟩, some ⟨3600, by decide⟩⟩

/-- The first midnight of the calendar, one hour east of universal time. -/
def DateTime.tooEarlySample : DateTime :=
  ⟨default, .midnight, some ⟨3600, by decide⟩⟩

/-- The leap day comes before the date with the later text, and the midnight before year 1 has
    none. -/
theorem Argument.write_in_order_leapSample :
    (∃ (w : Text) (u : DateTime), Argument.write (.literal (.dateTime .leapSample)) = .ok w ∧
      w.length = 24 ∧ Text.Fits Instant.form w ∧ u.offset = none ∧
      u.instant = DateTime.leapSample.instant / 1000 * 1000 ∧ w = u.stamp) ∧
    Argument.write (.literal (.dateTime .tooEarlySample)) = .error .dateRange ∧
    "2024-02-29T23:30:00.000Z".toList < "2024-03-01T00:00:00.000Z".toList := by
  obtain ⟨htext, horder⟩ := write_in_order
  refine ⟨(htext (.dateTime .leapSample) _ rfl).1 ⟨⟨2024, 2, 29, by decide⟩, ?_⟩,
    (htext (.dateTime .tooEarlySample) _ rfl).2 fun hin => ?_, ?_⟩
  · decide
  · exact absurd (Instant.inCalendar_iff.1 hin).1 (by decide)
  · have hleap : DateTime.leapSample.instant.text? = some "2024-02-29T23:30:00.000Z".toList := by
      decide +kernel
    have hmarch : (Date.mk 2024 3 1 (by decide)).instant.text? =
        some "2024-03-01T00:00:00.000Z".toList := by decide +kernel
    have hdecide := horder (.dateTime .leapSample) (.date ⟨2024, 3, 1, by decide⟩) _ _ _ _ rfl rfl
      (by rw [write_of_instant? rfl, hleap]) (by rw [write_of_instant? rfl, hmarch])
    exact hdecide.1.2 (by decide)

end QueryFilter
