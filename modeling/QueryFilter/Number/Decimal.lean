/-
  DECIMALS — exact decimal numbers that keep their trailing zeros.

  A finite decimal is a sign, a coefficient and an exponent of ten: `1.50` and `1.5` are different
  decimals.  It is written positionally as long as the exponent is not positive and the first digit
  is not behind the sixth place, and scientifically otherwise.  Besides there are infinities, and
  not-a-numbers with a payload of digits.
-/
import QueryFilter.Number.Layout
import QueryFilter.Number.Numeral

namespace QueryFilter

/-- A decimal number. -/
inductive Decimal
  /-- `± coefficient · 10 ^ exponent`. -/
  | finite (negative : Bool) (coefficient : Nat) (exponent : Int)
  | infinite (negative : Bool)
  /-- Not a number; payload zero is the same as none. -/
  | nan (negative signaling : Bool) (payload : Nat)
deriving DecidableEq, Repr, Inhabited

namespace Decimal

/-- Neither infinite nor a not-a-number. -/
def isFinite : Decimal → Bool
  | .finite .. => true
  | _ => false

/-- Zero, of either sign and with any exponent. -/
def isZero : Decimal → Bool
  | .finite _ coefficient _ => coefficient == 0
  | _ => false

/-- The text of a decimal. -/
def text : Decimal → Text
  | .finite negative coefficient exponent =>
    let digits := Nat.toDigits 10 coefficient
    let point := digits.length + exponent
    Integer.sign negative ++
      if exponent ≤ 0 ∧ -6 < point then Layout.decimal.positional digits point
      else Layout.decimal.scientific digits point
  | .infinite negative => Integer.sign negative ++ "Infinity".toList
  | .nan negative signaling payload =>
    Integer.sign negative ++ (if signaling then ['s'] else []) ++ "NaN".toList ++
      if payload = 0 then [] else Nat.toDigits 10 payload

/-- The words for a decimal that is not finite, in lower case, with what they denote. -/
def specials : List (Text × (Bool → Nat → Decimal)) := [
  ("infinity".toList, fun negative _ => .infinite negative),
  ("inf".toList, fun negative _ => .infinite negative),
  ("snan".toList, fun negative payload => .nan negative true payload),
  ("nan".toList, fun negative payload => .nan negative false payload)]

/-- Read a decimal that is not finite.  Only a not-a-number may have digits behind its word. -/
def readSpecial? (s : Text) : Option Decimal :=
  let (negative, s) := Numeral.readSign s
  let word := s.takeWhile Char.isAlpha
  match specials.lookup (word.map Char.toLower), Text.digits (s.dropWhile Char.isAlpha) with
  | some make, (payload, []) =>
    match make negative (Text.positional payload) with
    | .infinite negative => if payload = [] then some (.infinite negative) else none
    | d => some d
  | _, _ => none

/-- Read a decimal: a numeral, an infinity or a not-a-number. -/
def read? (s : Text) : Option Decimal :=
  match Numeral.read? s with
  | some n => some (.finite n.negative n.coefficient n.scale)
  | none => readSpecial? s

example : (read? "00.50".toList).map text = some "0.50".toList := by decide
example : (read? "12e2".toList).map text = some "1.2E+3".toList := by decide
example : (read? "-0.0000000".toList).map text = some "-0E-7".toList := by decide
example : (read? "-snan012".toList).map text = some "-sNaN12".toList := by decide

end Decimal

end QueryFilter
