/-
  CLAUSES — the parts of a filter and their text.

  | clause                  | text                             |
  |-------------------------|----------------------------------|
  | `and`, `or`, `not`      | the word                         |
  | opening, closing        | the parenthesis                  |
  | a comparison            | `field op value`                 |
  | a predicate             | `op(field, value)`               |
  | a membership            | `field in (value, value, ...)`   |
  | an `any` clause         | `(field/any(x:(condition)))`     |

  A condition names its relation by any argument; the other clauses are fixed.  Fields are
  written as they are.  Making the text can fail, and of several faults the one that is met
  first wins: options before their operator, an operator before the value, the values of a
  membership from left to right.
-/
import QueryFilter.Fault

namespace QueryFilter

/-- A part of a filter that is still to be written. -/
inductive Clause
  | and
  | or
  | not
  | opening
  | closing
  /-- A comparison or a predicate. -/
  | relation (r : Relation) (field : Text) (value : Argument)
  /-- A comparison or a predicate chosen by name. -/
  | condition (operator : Argument) (field : Text) (value : Argument)
  /-- The field is one of several values. -/
  | membership (field : Text) (values : Argument)
  /-- Some element of the collection in the field meets a condition. -/
  | any (field : Text) (options : Argument)
deriving Inhabited

namespace Clause

/-- The text of a comparison or a predicate with its value already written. -/
def relationText (r : Relation) (field value : Text) : Text :=
  match r with
  | .compare op => field ++ ' ' :: op.name ++ ' ' :: value
  | .call op => op.name ++ '(' :: field ++ ", ".toList ++ value ++ [')']

/-- The text of a comparison or a predicate. -/
def renderRelation (r : Relation) (field : Text) (value : Argument) : Except Fault Text :=
  value.write.map (relationText r field)

/-- The text of a comparison or a predicate chosen by name. -/
def renderCondition (operator : Argument) (field : Text) (value : Argument) : Except Fault Text :=
  match operator.relation? with
  | some r => renderRelation r field value
  | none => .error (Fault.ofOperator operator)

/-- The text of a membership with its values already written. -/
def membershipText (field : Text) (values : List Text) : Text :=
  field ++ " in (".toList ++ Text.joinWith ", ".toList values ++ [')']

/-- The text of a membership. -/
def renderMembership (field : Text) (values : Argument) : Except Fault Text :=
  match values.elements? with
  | some elements => (elements.mapM Argument.write).map (membershipText field)
  | none => .error (.argument .notSequence values)

/-- The variable that stands for an element of a collection. -/
def binder : Text := ['x']

/-- The text of an `any` clause around its condition. -/
def anyText (field condition : Text) : Text :=
  '(' :: field ++ "/any(".toList ++ binder ++ ":(".toList ++ condition ++ ")))".toList

/-- The options that an argument is or holds. -/
def anyOptions : Argument → Except Fault AnyOptions
  | .options operator value => .ok ⟨operator, value⟩
  | .mapping readOnly entries =>
    (AnyOptions.ofEntries entries).mapError fun problems =>
      .argument (.badOptions problems) (.mapping readOnly entries)
  | options => .error (.argument .notOptions options)

/-- The text of an `any` clause. -/
def renderAny (field : Text) (options : Argument) : Except Fault Text := do
  let options ← anyOptions options
  let condition ← renderCondition (.ofOperatorName options.operator) binder options.value
  return anyText field condition

/-- The text of a clause. -/
def render : Clause → Except Fault Text
  | .and => .ok "and".toList
  | .or => .ok "or".toList
  | .not => .ok "not".toList
  | .opening => .ok ['(']
  | .closing => .ok [')']
  | .relation r field value => renderRelation r field value
  | .condition operator field value => renderCondition operator field value
  | .membership field values => renderMembership field values
  | .any field options => renderAny field options

end Clause

end QueryFilter
