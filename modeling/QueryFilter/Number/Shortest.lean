/-
  SHORTEST TEXT — a double written with the fewest digits that read back as the same double.

  For one digit, two digits, and so on up to seventeen, the two decimals of that many digits around
  the value are tried, the nearer one first and of two equally near ones the even one first; the
  first that reads back is the text.  Reading back is the reader of `Number.Binary64` itself, so
  that the text is right by construction.  Seventeen digits always suffice; the definition does not
  rely on it and ends with the exact decimal expansion.

  Doubles from `10 ^ -4` up to below `10 ^ 16` are written positionally, the others scientifically.
-/
import QueryFilter.Number.Binary64
import QueryFilter.Number.Layout

namespace QueryFilter.Binary64

/-! ## Decimals around a double -/

/-- The exponent of ten of the first significant digit of a positive double. -/
def magnitude (x : Binary64) : Int :=
  if unitsPerOne ≤ x.units then (Nat.toDigits 10 (x.units / unitsPerOne)).length - 1
  else -(Nat.toDigits 10 ((unitsPerOne - 1) / x.units)).length

/-- The two multiples of `10 ^ scale` around a double, the nearer one first. -/
def around (x : Binary64) (scale : Int) : List Nat :=
  let num := x.units * 10 ^ (-scale).toNat
  let den := unitsPerOne * 10 ^ scale.toNat
  let low := num / den
  if roundDiv num den = low then [low, low + 1] else [low + 1, low]

/-- Write `coefficient · 10 ^ scale` in a layout, positionally if `10 ^ -4` is not above it and
    `10 ^ 16` is. -/
def layOut (layout : Layout) (coefficient : Nat) (scale : Int) : Text :=
  let ds := Nat.toDigits 10 coefficient
  let point := ds.length + scale
  let significant := (ds.reverse.dropWhile (· == '0')).reverse
  if -4 < point ∧ point ≤ 16 then layout.positional significant point
  else layout.scientific significant point

/-- The texts to try with `n` significant digits. -/
def candidatesOfLength (x : Binary64) (n : Nat) : List Text :=
  let scale := x.magnitude + 1 - n
  (x.around scale).map fun c => Integer.sign x.negative ++ layOut .double c scale

/-- The texts to try, in this order. -/
def candidates (x : Binary64) : List Text :=
  if x.significand = 0 then [Integer.sign x.negative ++ layOut .double 0 0]
  else (List.range 17).flatMap fun n => x.candidatesOfLength (n + 1)

/-- Every digit of a double: those before the point, and 1074 after it. -/
def exactText (x : Binary64) : Text :=
  Integer.sign x.negative ++ Nat.toDigits 10 (x.units / unitsPerOne) ++
    '.' :: Text.zeroPad 1074 (Nat.toDigits 10 (x.units % unitsPerOne * 5 ^ 1074))

/-- The text is read as this double. -/
def ReadsBack (x : Binary64) (t : Text) : Prop := Double.read? t = some (.finite x)

instance (x : Binary64) : DecidablePred x.ReadsBack := fun _ => inferInstanceAs (Decidable (_ = _))

/-- The shortest text that reads back as the double. -/
def text (x : Binary64) : Text := (x.candidates.find? (x.ReadsBack ·)).getD x.exactText

end QueryFilter.Binary64
