/-
  ENTRIES — numbers as they may be typed in, which is more than a filter may hold.

  Blanks around a number do not count.  In an integer or a double a single underscore may stand
  between two digits, in a decimal underscores may stand anywhere; and words name the infinities and
  the not-a-numbers, in any case of letters.
-/
import QueryFilter.Number.Binary64
import QueryFilter.Number.Decimal
import QueryFilter.Text.Blank

namespace QueryFilter.Entry

/-- A text without its underscores, each of which must stand between two digits; `behindDigit` tells
    whether a digit stands right before the text. -/
def dropSeparators? (behindDigit : Bool) : Text → Option Text
  | [] => some []
  | '_' :: c :: s =>
    if behindDigit ∧ (Text.digit? c).isSome then (dropSeparators? true s).map (c :: ·) else none
  | c :: s =>
    if c = '_' then none else (dropSeparators? (Text.digit? c).isSome s).map (c :: ·)

/-- A numeral as it may be typed. -/
def numeral? (s : Text) : Option Numeral := (dropSeparators? false s.strip).bind Numeral.read?

/-- An integer as it may be typed. -/
def integer? (s : Text) : Option Int :=
  (numeral? s).bind fun n => if n.isWhole then some n.integer else none

/-- The double that is no number of digits: an infinity, or not a number. -/
def specialDouble? (s : Text) : Option Double :=
  let (negative, word) := Numeral.readSign s
  match String.ofList (word.map Char.toLower) with
  | "inf" | "infinity" => some (.infinite negative)
  | "nan" => some .nan
  | _ => none

/-- A double as it may be typed. -/
def double? (s : Text) : Option Double :=
  match numeral? s with
  | some n => some n.double
  | none => specialDouble? s.strip

/-- A decimal as it may be typed. -/
def decimal? (s : Text) : Option Decimal := Decimal.read? (s.strip.filter (· ≠ '_'))

example : integer? " +1_000 ".toList = some 1000 ∧ integer? "1__0".toList = none := by decide
example : double? "-INF".toList = some (.infinite true) := by decide
example : (decimal? " 1_.5__0".toList).map Decimal.text = some "1.50".toList := by decide

end QueryFilter.Entry
