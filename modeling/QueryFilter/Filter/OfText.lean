/-
  FILTERS FROM TEXT — the whole reading: text to tokens, tokens to clauses, clauses to parts.

  Clauses are written as soon as they are read, so that of two faults the one that stands further to
  the left wins, whether it lies in the tokens or in the value of a clause.
-/
import QueryFilter.Clause.OfTokens
import QueryFilter.Filter.Basic

namespace QueryFilter.Filter

/-- Read and write the next clause of a row: its text and the row behind it; `none` at the end. -/
def next (policy : QuotePolicy) (row : Token.Row) : Except Fault (Option (Text × Token.Row)) :=
  match Clause.read policy row with
  | .error fault => .error (.reading fault)
  | .ok none => .ok none
  | .ok (some (c, row')) => c.render.map fun part => some (part, row')

/-- The row behind a clause is shorter. -/
theorem next_length {policy : QuotePolicy} {row row' : Token.Row} {part : Text}
    (h : next policy row = .ok (some (part, row'))) : row'.tokens.length < row.tokens.length := by
  unfold next at h
  split at h
  · cases h
  · cases h
  · rename_i c r hr
    obtain ⟨s, _, heq⟩ := map_eq_ok_iff.1 h
    cases heq
    exact Clause.read_length hr

/-- The parts of all clauses of a row. -/
def partsOf (policy : QuotePolicy) (row : Token.Row) : Except Fault (List Text) :=
  match _h : next policy row with
  | .error fault => .error fault
  | .ok none => .ok []
  | .ok (some (part, row')) => (partsOf policy row').map (part :: ·)
termination_by row.tokens.length
decreasing_by exact next_length _h

/-- The filter that a row of tokens denotes. -/
def ofTokens (policy : QuotePolicy) (tokens : List Token) : Except Fault Filter :=
  (partsOf policy ⟨0, tokens⟩).map Filter.mk

/-- The filter that a text denotes. -/
def ofText (policy : QuotePolicy) (text : Text) : Except Fault Filter :=
  ofTokens policy (Token.tokenize policy text)

/-- Spelling is normalised: numbers, commas, blanks, and the variable of a lambda. -/
example :
    (ofText .doubled
      "(a eq +01 or b in ('x'  2.50)) and t/any(v: v ne 1e3)".toList).toOption.map text =
      some "(a eq 1 or b in ('x', 2.5)) and (t/any(x:(x ne 1000.0)))".toList := by
  decide +kernel

end QueryFilter.Filter
