/-
  DIGITS — decimal digits of every script, read by their value.

  Each script that has decimal digits has ten of them in a row, zero first, so the class is given by
  the code points of its zeros: a character is a digit when it lies less than ten past a zero, and
  its distance from that zero is its value.
-/
import QueryFilter.Text.Basic

namespace QueryFilter.Text

/-- The code points of the digits zero above ASCII. -/
def zeros : List Nat := [
  0x660, 0x6F0, 0x7C0, 0x966, 0x9E6, 0xA66, 0xAE6, 0xB66, 0xBE6, 0xC66, 0xCE6, 0xD66, 0xDE6, 0xE50,
  0xED0, 0xF20, 0x1040, 0x1090, 0x17E0, 0x1810, 0x1946, 0x19D0, 0x1A80, 0x1A90, 0x1B50, 0x1BB0,
  0x1C40, 0x1C50, 0xA620, 0xA8D0, 0xA900, 0xA9D0, 0xA9F0, 0xAA50, 0xABF0, 0xFF10, 0x104A0, 0x10D30,
  0x11066, 0x110F0, 0x11136, 0x111D0, 0x112F0, 0x11450, 0x114D0, 0x11650, 0x116C0, 0x11730,
  0x118E0, 0x11950, 0x11C50, 0x11D50, 0x11DA0, 0x16A60, 0x16AC0, 0x16B50, 0x1D7CE, 0x1D7D8,
  0x1D7E2, 0x1D7EC, 0x1D7F6, 0x1E140, 0x1E2F0, 0x1E950, 0x1FBF0]

/-- The value of a decimal digit of any script. -/
def digit? (c : Char) : Option Nat :=
  (0x30 :: zeros).findSome? fun z =>
    if z ≤ c.toNat ∧ c.toNat < z + 10 then some (c.toNat - z) else none

/-- A digit's value is less than ten. -/
theorem digit?_lt_ten {c : Char} {d : Nat} (h : digit? c = some d) : d < 10 := by
  obtain ⟨z, _, hz⟩ := List.exists_of_findSome?_eq_some h
  split at hz
  · cases hz; omega
  · cases hz

/-- The longest run of digits at the front of a text, as values, and what follows it. -/
def digits : Text → List Nat × Text
  | [] => ([], [])
  | c :: s =>
    match digit? c with
    | some d => let (ds, rest) := digits s; (d :: ds, rest)
    | none => ([], c :: s)

/-- The number that a row of digits denotes in base ten. -/
def positional (ds : List Nat) : Nat := ds.foldl (fun n d => 10 * n + d) 0

example : digits "1٣９x".toList = ([1, 3, 9], ['x']) := by decide
example : positional [0, 1, 3, 9] = 139 := by decide

end QueryFilter.Text
