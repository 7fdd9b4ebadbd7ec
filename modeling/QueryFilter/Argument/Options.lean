/-
  OPTIONS OF AN `any` CLAUSE — a mapping checked for its two keys.

  The key `operator` must hold an operator, a text, or octets that are the UTF-8 form of a text; the
  key `value` may hold anything; and no other key may be there, least of all one that is no text.
  All problems are reported, in this order: the operator's, the value's, then each key that does not
  belong there.  Whether a text names an operator is NOT checked here: that is found out when the
  clause is made.  Octets are settled at once: they become the operator that they name, if they name
  one, and a text otherwise.
-/
import QueryFilter.Argument.Display

namespace QueryFilter

/-- Why the octets under `operator`, or whatever is there, are no operator name. -/
inductive OperatorProblem
  /-- Neither an operator, nor a text, nor octets. -/
  | notText
  /-- Octets that are not UTF-8. -/
  | notUtf8
deriving DecidableEq, Repr, Inhabited

/-- What is wrong with options. -/
inductive OptionProblem
  | missingOperator
  | badOperator (problem : OperatorProblem)
  | missingValue
  | unknownKey (key : Text)
  /-- A key that is no text, as reports show it. -/
  | invalidKey (key : Text)
deriving DecidableEq, Repr, Inhabited

namespace AnyOptions

/-- The key of the operator. -/
def operatorKey : Text := "operator".toList

/-- The key of the value. -/
def valueKey : Text := "value".toList

/-- The value under a key. -/
def lookup? (key : Text) (entries : List (Argument × Argument)) : Option Argument :=
  (entries.find? fun (k, _) => k.text? = some key).map Prod.snd

/-- The operator that octets spell, or the text that they spell instead. -/
def spelledOperator (name : Text) : OperatorName :=
  match Operator.ofName? name with
  | some op => .member op
  | none => .named name

/-- An argument as an operator name. -/
def operatorName : Argument → Except OperatorProblem OperatorName
  | .operator op => .ok (.member op)
  | .literal (.text name) => .ok (.named name)
  | .octets _ bytes =>
    match String.fromUTF8? ⟨bytes.toArray⟩ with
    | some name => .ok (spelledOperator name.toList)
    | none => .error .notUtf8
  | _ => .error .notText

/-- The problem of the operator, if there is one. -/
def operatorProblem? (entries : List (Argument × Argument)) : Option OptionProblem :=
  match lookup? operatorKey entries with
  | none => some .missingOperator
  | some a =>
    match operatorName a with
    | .ok _ => none
    | .error problem => some (.badOperator problem)

/-- The problem of the value, if there is one. -/
def valueProblem? (entries : List (Argument × Argument)) : Option OptionProblem :=
  if (lookup? valueKey entries).isNone then some .missingValue else none

/-- A key that is no text, in a report: a truth value as its number, and anything else as messages
    show it. -/
def shownKey : Argument → Text
  | .literal (.bool b) => Integer.numeral b.toInt
  | key => key.display?.getD ("<unprintable ".toList ++ key.typeName ++ " object>".toList)

/-- The problem of a key that does not belong into options. -/
def keyProblem? (key : Argument) : Option OptionProblem :=
  match key.text? with
  | some name => if name = operatorKey ∨ name = valueKey then none else some (.unknownKey name)
  | none => some (.invalidKey (shownKey key))

/-- Everything that is wrong with a mapping as options. -/
def problems (entries : List (Argument × Argument)) : List OptionProblem :=
  (operatorProblem? entries).toList ++ (valueProblem? entries).toList ++
    entries.filterMap fun (key, _) => keyProblem? key

/-- The options that a mapping holds, or all that is wrong with it. -/
def ofEntries (entries : List (Argument × Argument)) : Except (List OptionProblem) AnyOptions :=
  match problems entries, (lookup? operatorKey entries).map operatorName, lookup? valueKey entries with
  | [], some (.ok operator), some value => .ok ⟨operator, value⟩
  | problems, _, _ => .error problems

example : problems [(Argument.ofText valueKey, .nothing), (.literal (.bool true), .nothing)] =
    [.missingOperator, .invalidKey "1".toList] := by
  decide +kernel  -- the operator comes first, the keys that do not belong there last

end AnyOptions

end QueryFilter
