/-
  TIMESTAMPS — points in time, and their text `YYYY-MM-DDTHH:MM:SS.mmmZ`.

  A date-time has the fields of a clock and, optionally, an offset from universal time; without an
  offset it IS universal time, and a date alone means its midnight.  The text is always in universal
  time: the offset is subtracted, the microseconds are cut to milliseconds, and the result has a
  text only if it lies in the years 1 to 9999.  All 24 characters have fixed places, so that the
  order of texts is the order of times.
-/
import QueryFilter.Text.Basic
import QueryFilter.Time.Calendar

namespace QueryFilter

/-! ## Clock fields -/

/-- A time of day. -/
structure TimeOfDay where
  hour : Nat
  minute : Nat
  second : Nat
  microsecond : Nat
  valid : hour < 24 ∧ minute < 60 ∧ second < 60 ∧ microsecond < 1000000
deriving DecidableEq, Repr

namespace TimeOfDay

/-- The start of a day. -/
def midnight : TimeOfDay := ⟨0, 0, 0, 0, by decide⟩

instance : Inhabited TimeOfDay := ⟨midnight⟩

/-- The time with those fields, if there is one. -/
def ofFields? (hour minute second microsecond : Nat) : Option TimeOfDay :=
  if h : hour < 24 ∧ minute < 60 ∧ second < 60 ∧ microsecond < 1000000 then
    some ⟨hour, minute, second, microsecond, h⟩
  else none

/-- Microseconds since midnight. -/
def microseconds (t : TimeOfDay) : Nat :=
  ((t.hour * 60 + t.minute) * 60 + t.second) * 1000000 + t.microsecond

end TimeOfDay

/-- A difference from universal time, in seconds, of less than a day. -/
structure UtcOffset where
  seconds : Int
  valid : -86400 < seconds ∧ seconds < 86400
deriving DecidableEq, Repr

/-- The offset of that many seconds, if there is one. -/
def UtcOffset.ofSeconds? (seconds : Int) : Option UtcOffset :=
  if h : -86400 < seconds ∧ seconds < 86400 then some ⟨seconds, h⟩ else none

/-- A date with a time of day, in universal time unless it has an offset. -/
structure DateTime where
  date : Date
  time : TimeOfDay
  offset : Option UtcOffset
deriving DecidableEq, Repr, Inhabited

/-! ## Instants -/

/-- A point in time: microseconds since the start of year 1 in universal time. -/
abbrev Instant := Int

/-- The length of a day in milliseconds. -/
def Instant.perDay : Nat := 86400000

/-- The point in time that a date-time denotes. -/
def DateTime.instant (t : DateTime) : Instant :=
  (t.date.dayNumber * (1000 * Instant.perDay) + t.time.microseconds : Nat) -
    ((t.offset.map UtcOffset.seconds).getD 0) * 1000000

/-- The midnight at which a date starts. -/
def Date.instant (d : Date) : Instant := DateTime.instant ⟨d, .midnight, none⟩

/-! ## Text -/

/-- `YYYY-MM-DD`. -/
def Date.text (d : Date) : Text :=
  Text.fixedWidth 4 d.year ++ '-' :: Text.fixedWidth 2 d.month ++ '-' :: Text.fixedWidth 2 d.day

/-- `HH:MM:SS.mmm` for a number of milliseconds since midnight. -/
def Instant.clockText (ms : Nat) : Text :=
  Text.fixedWidth 2 (ms / 3600000) ++ ':' :: Text.fixedWidth 2 (ms / 60000 % 60) ++
    ':' :: Text.fixedWidth 2 (ms / 1000 % 60) ++ '.' :: Text.fixedWidth 3 (ms % 1000)

/-- The timestamp of a point in time; `none` outside the years 1 to 9999. -/
def Instant.text? (t : Instant) : Option Text :=
  if t < 0 then none
  else
    let ms := t.toNat / 1000
    (Date.ofDayNumber? (ms / Instant.perDay)).map fun date =>
      date.text ++ 'T' :: Instant.clockText (ms % Instant.perDay) ++ ['Z']

example : (Date.ofFields? 1 2 3).bind (·.instant.text?) =
    some "0001-02-03T00:00:00.000Z".toList := by
  decide

end QueryFilter
