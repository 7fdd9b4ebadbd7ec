/-
  OPERATORS — the closed set of words that a condition may be built with.

  Six comparisons are written between a field and a value, three predicates are written as calls,
  and both kinds together are the RELATIONS: what a condition, or the body of an `any` clause, can
  test.  Two more operators, `in` and `any`, have clauses of their own and are no relations.
-/
import QueryFilter.Text.Basic

namespace QueryFilter

/-- The comparisons, written `field op value`. -/
inductive Comparison
  | eq | ne | gt | lt | ge | le
deriving DecidableEq, Repr, Inhabited

/-- The string predicates, written `op(field, value)`. -/
inductive Predicate
  | contains | startsWith | endsWith
deriving DecidableEq, Repr, Inhabited

/-- What a condition can test. -/
inductive Relation
  | compare (op : Comparison)
  | call (op : Predicate)
deriving DecidableEq, Repr, Inhabited

/-- Every operator word. -/
inductive Operator
  | test (relation : Relation)
  | isIn
  | any
deriving DecidableEq, Repr, Inhabited

/-! ## Names -/

/-- The word of a comparison. -/
def Comparison.name : Comparison → Text
  | .eq => "eq".toList
  | .ne => "ne".toList
  | .gt => "gt".toList
  | .lt => "lt".toList
  | .ge => "ge".toList
  | .le => "le".toList

/-- The word of a predicate. -/
def Predicate.name : Predicate → Text
  | .contains => "contains".toList
  | .startsWith => "startswith".toList
  | .endsWith => "endswith".toList

/-- The word of a relation. -/
def Relation.name : Relation → Text
  | .compare op => op.name
  | .call op => op.name

/-- The word of an operator. -/
def Operator.name : Operator → Text
  | .test relation => relation.name
  | .isIn => "in".toList
  | .any => "any".toList

/-- The name of an operator in capitals, as it is shown beside the word. -/
def Operator.title (op : Operator) : Text := op.name.map Char.toUpper

/-! ## Look-up by name -/

/-- All comparisons. -/
def Comparison.all : List Comparison := [.eq, .ne, .gt, .lt, .ge, .le]

/-- All predicates. -/
def Predicate.all : List Predicate := [.contains, .startsWith, .endsWith]

/-- All operators. -/
def Operator.all : List Operator :=
  Comparison.all.map (.test <| .compare ·) ++ Predicate.all.map (.test <| .call ·) ++ [.isIn, .any]

/-- The comparison of that name. -/
def Comparison.ofName? (name : Text) : Option Comparison := Comparison.all.find? (·.name = name)

/-- The predicate of that name. -/
def Predicate.ofName? (name : Text) : Option Predicate := Predicate.all.find? (·.name = name)

/-- The operator of that name. -/
def Operator.ofName? (name : Text) : Option Operator := Operator.all.find? (·.name = name)

/-- The relation that an operator tests; `in` and `any` test none. -/
def Operator.relation? : Operator → Option Relation
  | .test relation => some relation
  | .isIn => none
  | .any => none

/-- An operator is found under its own name. -/
@[simp] theorem Operator.ofName?_name (op : Operator) : Operator.ofName? op.name = some op := by
  cases op with
  | test relation => rcases relation with op | op <;> cases op <;> decide
  | isIn => decide
  | any => decide

/-- Only its own name finds an operator. -/
theorem Operator.ofName?_eq_some_iff {name : Text} {op : Operator} :
    Operator.ofName? name = some op ↔ name = op.name := by
  constructor
  · intro h
    have := List.find?_some h
    exact (of_decide_eq_true this).symm
  · rintro rfl
    exact Operator.ofName?_name op

end QueryFilter
