/-
  NUMERALS — the grammar of number tokens.

      sign? ( digits ( '.' digits? )? | '.' digits ) ( ('e' | 'E') sign? digits )?

  where a digit is a decimal digit of ANY script.  A numeral keeps its digits as values and
  remembers which parts were written, since a numeral without point and exponent denotes an integer
  and any other one a double.
-/
import QueryFilter.Text.Digit

namespace QueryFilter

/-- A number token taken apart. -/
structure Numeral where
  negative : Bool
  /-- The digits before the point. -/
  whole : List Nat
  /-- The digits after the point, if there is a point. -/
  fraction : Option (List Nat)
  /-- The exponent of ten, if one is written. -/
  exponent : Option Int
deriving DecidableEq, Repr, Inhabited

namespace Numeral

/-! ## Reading -/

/-- An optional sign: whether it is a minus, and what follows. -/
def readSign : Text → Bool × Text
  | '-' :: s => (true, s)
  | '+' :: s => (false, s)
  | s => (false, s)

/-- An optional point and the digits behind it. -/
def readFraction : Text → Option (List Nat) × Text
  | '.' :: s => ((Text.digits s).1, (Text.digits s).2)
  | s => (none, s)

/-- An optional exponent, which must be the end of the text. -/
def readExponent? : Text → Option (Option Int)
  | [] => some none
  | c :: s =>
    if c = 'e' ∨ c = 'E' then
      let (negative, s) := readSign s
      match Text.digits s with
      | ([], _) => none
      | (ds, []) => some (some (if negative then -(Text.positional ds : Int) else Text.positional ds))
      | (_, _ :: _) => none
    else none

/-- Take a whole text apart as a numeral. -/
def read? (s : Text) : Option Numeral :=
  let (negative, s) := readSign s
  let (whole, s) := Text.digits s
  let (fraction, s) := readFraction s
  if whole = [] ∧ fraction.getD [] = [] then none
  else (readExponent? s).map fun exponent => ⟨negative, whole, fraction, exponent⟩

/-! ## Meaning: `± coefficient · 10 ^ scale` -/

-- a power of natural numbers is the core library's, also beside a library with powers of its own
attribute [instance (20000), default_instance (20000)] instPowNat

/-- All digits as one number. -/
def coefficient (n : Numeral) : Nat := Text.positional (n.whole ++ n.fraction.getD [])

/-- The power of ten that the coefficient is multiplied by. -/
def scale (n : Numeral) : Int := n.exponent.getD 0 - (n.fraction.getD []).length

/-- No point and no exponent was written. -/
def isWhole (n : Numeral) : Bool := n.fraction.isNone && n.exponent.isNone

/-- The integer that a numeral without point and exponent denotes. -/
def integer (n : Numeral) : Int :=
  if n.negative then -(Text.positional n.whole : Int) else Text.positional n.whole

example : read? "-1٢.50e-3".toList = some ⟨true, [1, 2], some [5, 0], some (-3)⟩ := by decide
example : read? "5.".toList = some ⟨false, [5], some [], none⟩ := by decide
example : read? ".".toList = none ∧ read? "1e".toList = none ∧ read? "1 ".toList = none := by decide

end Numeral

end QueryFilter
