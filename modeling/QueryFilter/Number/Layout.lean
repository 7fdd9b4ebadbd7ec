/-
  LAYOUT — where the decimal point of a written number goes.

  A number comes as a row of significant digits `d₁ d₂ …` and a POINT, the number of digits
  before the decimal point, so that its value is `0.d₁d₂… · 10 ^ point`; the point may lie
  before the first digit or past the last one.  Positional notation fills the gap with zeros,
  scientific notation puts the point after the first digit and writes an exponent.  What differs
  between formats is a record.
-/
import QueryFilter.Number.Integer

namespace QueryFilter

/-- The choices of a number format. -/
structure Layout where
  /-- Whether a number without fraction still gets a point and a zero. -/
  keepsPoint : Bool
  /-- The letter before an exponent. -/
  mark : Char
  /-- The least number of digits of an exponent. -/
  exponentWidth : Nat
deriving Repr

namespace Layout

/-- Doubles: `1000.0`, `1e+16`, `1e-05`. -/
def double : Layout := ⟨true, 'e', 2⟩

/-- Decimals: `1000`, `1E+3`, `1E-7`. -/
def decimal : Layout := ⟨false, 'E', 1⟩

/-- The digits before the point, at least one. -/
def wholePart (digits : Text) (point : Int) : Text :=
  if point ≤ 0 then ['0']
  else digits.take point.toNat ++ List.replicate (point.toNat - digits.length) '0'

/-- The digits after the point. -/
def fractionPart (digits : Text) (point : Int) : Text :=
  List.replicate (-point).toNat '0' ++ digits.drop point.toNat

/-- Positional notation. -/
def positional (l : Layout) (digits : Text) (point : Int) : Text :=
  let fraction := fractionPart digits point
  wholePart digits point ++
    if fraction = [] then (if l.keepsPoint then ".0".toList else []) else '.' :: fraction

/-- The exponent of scientific notation, always with a sign. -/
def exponentPart (l : Layout) (e : Int) : Text :=
  [l.mark, if e < 0 then '-' else '+'] ++ Text.zeroPad l.exponentWidth (Nat.toDigits 10 e.natAbs)

/-- Scientific notation. -/
def scientific (l : Layout) (digits : Text) (point : Int) : Text :=
  let fraction := digits.drop 1
  digits.take 1 ++ (if fraction = [] then [] else '.' :: fraction) ++ l.exponentPart (point - 1)

example : double.positional "15".toList 3 = "150.0".toList := by decide
example : double.positional "15".toList (-1) = "0.015".toList := by decide
example : double.scientific "15".toList 24 = "1.5e+23".toList := by decide
example : decimal.scientific "1".toList (-6) = "1E-7".toList := by decide

end Layout

end QueryFilter
