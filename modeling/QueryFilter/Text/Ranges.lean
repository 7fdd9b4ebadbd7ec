/-
  RANGES — a character class as a table of code point ranges.

  The classes of this library (blank, name character, printable) are properties of the Unicode
  character database.  Each is a table of closed ranges, and a character belongs to the class when
  one of the ranges covers its code point.
-/

namespace QueryFilter

/-- Closed ranges of code points, in ascending order. -/
abbrev Ranges := List (Nat × Nat)

/-- Some range of the table holds the code point. -/
def Ranges.covers (table : Ranges) (n : Nat) : Bool :=
  table.any fun (lo, hi) => lo ≤ n && n ≤ hi

theorem Ranges.covers_eq_true_iff {table : Ranges} {n : Nat} :
    table.covers n = true ↔ ∃ r ∈ table, r.1 ≤ n ∧ n ≤ r.2 := by
  simp [Ranges.covers]

end QueryFilter
