/-
  INTEGERS — decimal text of unbounded integers, up to a limit on the number of digits.

  Reading and writing share one limit: a numeral of more than 4300 digits is not read as an integer,
  and an integer of more than 4300 digits has no text.  The sign does not count as a digit, leading
  zeros do.
-/
import QueryFilter.Text.Basic

namespace QueryFilter.Integer

/-- The greatest number of digits of an integer numeral. -/
def digitLimit : Nat := 4300

/-- The sign of a number that is written with one only when it is negative. -/
def sign (negative : Bool) : Text := if negative then ['-'] else []

/-- An integer in base ten, with a sign if it is negative. -/
def numeral (n : Int) : Text := sign (n < 0) ++ Nat.toDigits 10 n.natAbs

/-- The decimal text of an integer; `none` beyond the limit. -/
def text? (n : Int) : Option Text :=
  if (Nat.toDigits 10 n.natAbs).length ≤ digitLimit then some (numeral n) else none

example : text? (-120) = some "-120".toList := by decide
example : text? 0 = some "0".toList := by decide

end QueryFilter.Integer
