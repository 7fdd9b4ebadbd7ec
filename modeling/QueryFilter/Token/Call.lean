/-
  CALLS — a call token taken apart into name, field and value.

      name blank* '(' field ',' value ')'

  The name is a run of name characters, and the last parenthesis of the token closes the call.  The
  first comma ends the field; whatever follows it is the value, further commas included.  Blanks
  around the three parts do not count, and neither field nor value may be empty.
-/
import QueryFilter.Text.Blank
import QueryFilter.Text.Name
import QueryFilter.Token.Fault

namespace QueryFilter

/-- A call taken apart. -/
structure Call where
  name : Text
  field : Text
  value : Text
deriving DecidableEq, Repr, Inhabited

namespace Call

/-- The name of a call and everything between its parentheses. -/
def nameAndArguments? (s : Text) : Option (Text × Text) :=
  let s := s.strip
  let name := s.takeWhile Text.isNameChar
  match (s.dropWhile Text.isNameChar).dropWhile Text.isBlank with
  | '(' :: rest =>
    if name = [] then none
    else (Text.dropLast? ')' rest).map fun arguments => (name, arguments)
  | _ => none

/-- The field and the value of an argument list, if neither is blank. -/
def fieldAndValue? (arguments : Text) : Option (Text × Text) :=
  (Text.cut? ',' arguments).bind fun (field, value) =>
    if field.strip = [] ∨ value.strip = [] then none else some (field.strip, value.strip)

/-- Take a call token apart. -/
def ofToken (index : Int) (t : Token) : Except ReadFault Call :=
  match nameAndArguments? t.text with
  | none => .error ⟨.malformedCall, index, some t⟩
  | some (name, arguments) =>
    match fieldAndValue? arguments with
    | none => .error ⟨.incompleteCall name, index, some t⟩
    | some (field, value) => .ok ⟨name, field, value⟩

end Call

end QueryFilter
