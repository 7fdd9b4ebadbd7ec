/-
  BINARY64 — the doubles, as exact numbers.

  A finite double is `± significand · 2 ^ power / 2 ^ 1074`: the significand has at most 53
  bits, and it has exactly 53 unless the power is the least one.  With that rule, kept in
  the type, each magnitude has ONE representation, so that equal structures are equal
  numbers.  (Zero keeps its sign.)

  A decimal is read by rounding it to the nearest double, a tie going to the even significand.
  Everything is computed on natural numbers, without any floating-point operation.
-/
import QueryFilter.Number.Numeral

namespace QueryFilter

/-- A significand and a power that represent a finite double in the one permitted way. -/
def Binary64.Canonical (significand power : Nat) : Prop :=
  significand < 2 ^ 53 ∧ (2 ^ 52 ≤ significand ∨ power = 0) ∧ power ≤ 2045

instance (significand power : Nat) : Decidable (Binary64.Canonical significand power) := by
  unfold Binary64.Canonical; infer_instance

/-- A finite double, `± significand · 2 ^ power / 2 ^ 1074`. -/
structure Binary64 where
  negative : Bool
  significand : Nat
  power : Nat
  canonical : Binary64.Canonical significand power
deriving DecidableEq, Repr

namespace Binary64

/-- Zero, with its sign. -/
def zero (negative : Bool) : Binary64 := ⟨negative, 0, 0, by decide⟩

instance : Inhabited Binary64 := ⟨zero false⟩

/-- The magnitude in units of `2 ^ -1074`. -/
def units (x : Binary64) : Nat := x.significand * 2 ^ x.power

/-- How many units make one. -/
def unitsPerOne : Nat := 2 ^ 1074

/-! ## Rounding -/

/-- The integer nearest to `num / den`, the even one of two that are equally near. -/
def roundDiv (num den : Nat) : Nat :=
  let q := num / den
  let twice := 2 * (num % den)
  if twice < den ∨ twice = den ∧ q % 2 = 0 then q else q + 1

/-- The double of that significand and power, if they are a permitted representation. -/
def ofParts? (negative : Bool) (significand power : Nat) : Option Binary64 :=
  if h : Canonical significand power then some ⟨negative, significand, power, h⟩ else none

/-- The double of a rounded significand, which may have been carried into a 54th bit. -/
def ofRounded? (negative : Bool) (m power : Nat) : Option Binary64 :=
  if m = 2 ^ 53 then ofParts? negative (2 ^ 52) (power + 1) else ofParts? negative m power

/-- The double nearest to `± num / den`; `none` if that is out of range.  The power is the least one
    for which the significand fits into 53 bits before it is rounded. -/
def ofRatio? (negative : Bool) (num den : Nat) : Option Binary64 :=
  let units := num * unitsPerOne
  let power := (units / den).log2 - 52
  ofRounded? negative (roundDiv units (den * 2 ^ power)) power

/-- The double nearest to `± coefficient · 10 ^ scale`; `none` if that is out of range.  A positive
    coefficient with a scale above 400 is out of range in any case, and one below
    `10 ^ -400` is nearer to zero than to any other double, so neither power of ten is computed. -/
def ofDecimal? (negative : Bool) (coefficient : Nat) (scale : Int) : Option Binary64 :=
  if coefficient = 0 then some (zero negative)
  else if scale > 400 then none
  else if scale < -(400 + coefficient.log2 : Int) then some (zero negative)
  else if 0 ≤ scale then ofRatio? negative (coefficient * 10 ^ scale.toNat) 1
  else ofRatio? negative coefficient (10 ^ (-scale).toNat)

end Binary64

/-- Any double. -/
inductive Double
  | nan
  | infinite (negative : Bool)
  | finite (x : Binary64)
deriving DecidableEq, Repr, Inhabited

/-- Zero, of either sign. -/
def Double.isZero : Double → Bool
  | .finite x => x.significand == 0
  | _ => false

/-- The double nearest to a numeral; a numeral out of range gives an infinity. -/
def Numeral.double (n : Numeral) : Double :=
  match Binary64.ofDecimal? n.negative n.coefficient n.scale with
  | some x => .finite x
  | none => .infinite n.negative

/-- Read a double: a numeral that has a point or an exponent. -/
def Double.read? (s : Text) : Option Double :=
  (Numeral.read? s).bind fun n => if n.isWhole then none else some n.double

end QueryFilter
