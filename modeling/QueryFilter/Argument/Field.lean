/-
  FIELDS — an argument in the place of a clause where its field stands.

  A field is a text or a raw token, and stands there as it is.  Nothing stops a caller from handing
  over another argument, though, and that one is written out plainly: dates and times by their
  fields with the usual separators, decimals by their digits, operators by their full name, a
  read-only mapping like any other, and all else as messages show it.  An integer beyond the digit
  limit cannot be written, nor can anything that holds one.
-/
import QueryFilter.Argument.Display

namespace QueryFilter

/-- `HH:MM:SS`, with six places of a second if it is not a whole one. -/
def TimeOfDay.text (t : TimeOfDay) : Text :=
  Text.fixedWidth 2 t.hour ++ ':' :: Text.fixedWidth 2 t.minute ++ ':' :: Text.fixedWidth 2 t.second ++
    if t.microsecond = 0 then [] else '.' :: Text.fixedWidth 6 t.microsecond

/-- `+HH:MM` or `-HH:MM`, with seconds if there are any. -/
def UtcOffset.text (o : UtcOffset) : Text :=
  let seconds := o.seconds.natAbs
  (if o.seconds < 0 then '-' else '+') :: Text.fixedWidth 2 (seconds / 3600) ++
    ':' :: Text.fixedWidth 2 (seconds / 60 % 60) ++
    if seconds % 60 = 0 then [] else ':' :: Text.fixedWidth 2 (seconds % 60)

/-- A date, its time, and its offset if it has one. -/
def DateTime.text (t : DateTime) : Text :=
  t.date.text ++ ' ' :: t.time.text ++ (t.offset.map UtcOffset.text).getD []

/-- An argument as a field. -/
def Argument.field? : Argument → Option Text
  | .literal (.text s) => some s
  | .literal (.raw token) => some token
  | .literal (.decimal d) => some d.text
  | .literal (.dateTime t) => some t.text
  | .literal (.date d) => some d.text
  | .timeOfDay t => some t.text
  | .operator op => some ("Operator.".toList ++ op.title)
  | .mapping _ entries => (Argument.displayEntries? entries).map (displayMapping false)
  | .options op value => value.display?.map fun value =>
    "operator=".toList ++ op.display ++ " value=".toList ++ value
  | other => other.display?

example : (DateTime.text <$> (Date.ofFields? 2024 2 29).map fun d =>
    ⟨d, .midnight, UtcOffset.ofSeconds? (-5400)⟩) = some "2024-02-29 00:00:00-01:30".toList := by
  decide +kernel

end QueryFilter
