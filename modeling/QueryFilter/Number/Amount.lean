/-
  AMOUNTS — the value of a number, whatever sort of number it is.

  An integer, a double and a decimal can have the same value.  Each finite value other than zero is
  `± unit · 2 ^ twos · 5 ^ fives` for exactly one unit that neither 2 nor 5 divides, so that two
  numbers have the same value exactly when these four parts agree.  No power is ever multiplied out:
  a decimal with an exponent of a million costs no more than one without.
-/
import QueryFilter.Number.Binary64
import QueryFilter.Number.Decimal

namespace QueryFilter

/-- The value of a number. -/
inductive Amount
  | zero
  /-- `± unit · 2 ^ twos · 5 ^ fives`. -/
  | finite (negative : Bool) (unit : Nat) (twos fives : Int)
  | infinite (negative : Bool)
deriving DecidableEq, Repr, Inhabited

namespace Amount

/-- How often `p` divides `n`, and what is left of `n` then. -/
def factorOut (p n : Nat) : Nat × Nat :=
  if _h : 1 < p ∧ 0 < n ∧ n % p = 0 then
    let (count, rest) := factorOut p (n / p)
    (count + 1, rest)
  else (0, n)
termination_by n
decreasing_by exact Nat.div_lt_self _h.2.1 _h.1

/-- The amount `± n · 2 ^ twos · 5 ^ fives`. -/
def ofParts (negative : Bool) (n : Nat) (twos fives : Int) : Amount :=
  if n = 0 then .zero
  else
    let (moreTwos, n) := factorOut 2 n
    let (moreFives, unit) := factorOut 5 n
    .finite negative unit (twos + moreTwos) (fives + moreFives)

/-- The amount of an integer. -/
def ofInt (n : Int) : Amount := ofParts (n < 0) n.natAbs 0 0

/-- The amount of a double; a not-a-number has none. -/
def ofDouble? : Double → Option Amount
  | .nan => none
  | .infinite negative => some (.infinite negative)
  | .finite x => some (ofParts x.negative x.significand (x.power - 1074) 0)

/-- The amount of a decimal; a not-a-number has none. -/
def ofDecimal? : Decimal → Option Amount
  | .finite negative coefficient exponent => some (ofParts negative coefficient exponent exponent)
  | .infinite negative => some (.infinite negative)
  | .nan .. => none

example : ofDecimal? (.finite false 150 (-2)) = some (ofParts false 3 (-1) 0) := by decide +kernel
example : ofInt (-40) = .finite true 1 3 1 := by decide +kernel

end Amount

end QueryFilter
