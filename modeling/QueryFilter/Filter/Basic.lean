/-
  FILTERS — an ordered row of clauses in text form.

  A filter only appends: nothing checks that groups are balanced or that `and` and `or` stand
  between conditions.  Its text is the parts with single spaces between them, except directly inside
  a group, that is behind an opening and before a closing parenthesis.
-/
import QueryFilter.Clause.Basic

namespace QueryFilter

/-- A row of written clauses. -/
structure Filter where
  parts : List Text
deriving DecidableEq, Repr, Inhabited

namespace Filter

/-- The filter without parts. -/
def empty : Filter := ⟨[]⟩

/-- The number of parts. -/
def size (f : Filter) : Nat := f.parts.length

/-- The filter with one more part at its end. -/
def push (f : Filter) (part : Text) : Filter := ⟨f.parts ++ [part]⟩

/-- The filter with one more clause at its end, unless that cannot be written. -/
def add (f : Filter) (c : Clause) : Except Fault Filter := c.render.map f.push

/-! ## Text -/

/-- What stands between two parts. -/
def gap (before behind : Text) : Text := if before = ['('] ∨ behind = [')'] then [] else [' ']

/-- The parts behind a first one, with the gaps in front of them. -/
def textAfter : Text → List Text → Text
  | _, [] => []
  | before, part :: parts => gap before part ++ part ++ textAfter part parts

/-- The text of a filter. -/
def text (f : Filter) : Text :=
  match f.parts with
  | [] => []
  | part :: parts => part ++ textAfter part parts

/-- A filter as messages show it. -/
def display (f : Filter) : Text := "SearchBuilder(".toList ++ f.text.display ++ [')']

example : text ⟨[['('], ['a'], ['('], ['b'], [')'], [')'], ['c']]⟩ = "(a (b)) c".toList := by decide

end Filter

end QueryFilter
