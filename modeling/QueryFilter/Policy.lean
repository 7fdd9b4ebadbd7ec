/-
  QUOTE POLICY — how two adjacent single quotes inside a string literal are read.

  The policy is an argument of every reading function: there is no global setting.
-/

namespace QueryFilter

/-- What a doubled quote means inside a literal. -/
inductive QuotePolicy
  /-- Two quotes stand for one, and the literal goes on. -/
  | doubled
  /-- The first quote after the opening one closes the literal, whatever follows. -/
  | literal
deriving DecidableEq, Repr, Inhabited

end QueryFilter
