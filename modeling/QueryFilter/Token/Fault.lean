/-
  READ FAULTS — why a row of tokens is no filter.

  A fault has a cause, the index of the token at which reading stopped, and that token itself; at
  the end of the row there is no token to blame.  The cause holds what was read before and is
  mentioned in the message; the wording is in `ReadFault.message` alone.
-/
import QueryFilter.Number.Integer
import QueryFilter.Text.Display
import QueryFilter.Token.Basic

namespace QueryFilter

/-- Why reading stopped. -/
inductive ReadFault.Cause
  /-- A clause cannot start with this token. -/
  | expectedField
  /-- The row ends behind a field. -/
  | expectedOperator (field : Text)
  /-- This token is no operator. -/
  | unsupportedOperator (field : Text)
  /-- No value follows an operator. -/
  | expectedValue (operator field : Text)
  /-- No parenthesis follows an `in`. -/
  | expectedList (field : Text)
  /-- This token cannot stand in a list of values. -/
  | unsupportedElement (field : Text)
  /-- The row ends inside a list of values. -/
  | unterminatedList (field : Text)
  /-- A call without name or parentheses. -/
  | malformedCall
  /-- A call without field or value. -/
  | incompleteCall (name : Text)
  /-- A call of something that is no relation. -/
  | unsupportedFunction (name : Text)
  /-- A lambda without field, variable or body. -/
  | malformedLambda
  /-- A lambda whose body is not one condition. -/
  | notOneCondition
  /-- A lambda whose condition is not about its variable. -/
  | otherSubject (binder subject : Text)
  /-- A lambda whose operator is no relation. -/
  | unsupportedLambda (operator : Text)
deriving DecidableEq, Repr, Inhabited

/-- A failure to read tokens. -/
structure ReadFault where
  cause : ReadFault.Cause
  /-- The index of the offending token in the row. -/
  index : Int
  /-- The offending token; `none` at the end of the row. -/
  culprit : Option Token
deriving DecidableEq, Repr, Inhabited

namespace ReadFault

/-- The culprit as messages show it. -/
def shown (f : ReadFault) : Text :=
  match f.culprit with
  | some t => t.text.display
  | none => "nothing".toList

/-- The place of the culprit. -/
def place (f : ReadFault) : Text := " at token ".toList ++ Integer.numeral f.index

/-- A text in plain single quotes. -/
def named (s : Text) : Text := '\'' :: s ++ ['\'']

/-- The message of a fault in a lambda. -/
def lambdaMessage (f : ReadFault) (reason : Text) : Text :=
  reason ++ " in ".toList ++ f.shown ++ f.place

/-- The message of a fault. -/
def message (f : ReadFault) : Text :=
  match f.cause with
  | .expectedField => "Expected field name".toList ++ f.place ++ ", got ".toList ++ f.shown
  | .expectedOperator field =>
    "Expected operator after field ".toList ++ named field ++ ", but got ".toList ++ f.shown
  | .unsupportedOperator field =>
    "Unsupported operator ".toList ++ f.shown ++ " after field ".toList ++ named field ++ f.place
  | .expectedValue operator field =>
    "Expected value after operator ".toList ++ named operator ++ " for field ".toList ++ named field ++
      ", but got ".toList ++ f.shown
  | .expectedList field => "Expected '(' after 'in' for field ".toList ++ named field
  | .unsupportedElement field =>
    "Unsupported value ".toList ++ f.shown ++ " in 'in' list for field ".toList ++ named field
  | .unterminatedList field => "Unterminated 'in' list for field ".toList ++ named field
  | .malformedCall => "Malformed function call ".toList ++ f.shown ++ f.place
  | .incompleteCall name =>
    "Expected ".toList ++ named (name ++ "(field, value)".toList) ++ f.place ++ ", got ".toList ++
      f.shown
  | .unsupportedFunction name => "Unsupported function ".toList ++ name.display ++ f.place
  | .malformedLambda => f.lambdaMessage "Malformed lambda expression".toList
  | .notOneCondition => f.lambdaMessage "Lambda body must be a single condition".toList
  | .otherSubject binder subject =>
    f.lambdaMessage <|
      "Lambda body must test ".toList ++ named binder ++ ", not ".toList ++ named subject
  | .unsupportedLambda operator => "Unsupported lambda operator ".toList ++ operator.display ++ f.place

end ReadFault

end QueryFilter
