/-
  TOKENS — the pieces that filter text falls into.

  A token is a stretch of the text with its kind and the offset of its first character.  A whole
  call `contains(name, 'x')` is ONE token, and so is a whole lambda `(tags/any(x:(x eq 1)))`; the
  text of both is taken apart only when a clause is made from it.
-/
import QueryFilter.Operator

namespace QueryFilter

/-- What a token is. -/
inductive Token.Kind
  /-- The word `and`. -/
  | and
  /-- The word `or`. -/
  | or
  /-- The word `not`. -/
  | not
  /-- The word `in`. -/
  | isIn
  /-- One of the six comparison words. -/
  | comparison
  /-- An opening parenthesis. -/
  | opening
  /-- A closing parenthesis. -/
  | closing
  /-- A comma. -/
  | comma
  /-- A literal in single quotes, the quotes included. -/
  | string
  /-- A predicate with its parenthesised arguments. -/
  | call
  /-- A condition on the elements of a collection, `field/any(...)`. -/
  | lambda
  /-- Any other word: a field name, a number, an unquoted literal. -/
  | bare
deriving DecidableEq, Repr, Inhabited

/-- A stretch of filter text. -/
structure Token where
  kind : Token.Kind
  text : Text
  /-- The offset of the first character in the text that was scanned.  Reading tokens never asks for
      it, so a token that was made by hand may have any. -/
  pos : Int
deriving DecidableEq, Repr, Inhabited

namespace Token

/-- The kind of a word that starts neither a call nor a lambda. -/
def Kind.ofWord (word : Text) : Kind :=
  if word = "and".toList then .and
  else if word = "or".toList then .or
  else if word = "not".toList then .not
  else if word = "in".toList then .isIn
  else if (Comparison.ofName? word).isSome then .comparison
  else .bare

/-- The kinds that can stand as the value of a condition. -/
def Kind.isValue : Kind → Bool
  | .string | .bare => true
  | _ => false

end Token

end QueryFilter
