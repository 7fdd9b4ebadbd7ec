/-
  FAULTS — everything that can go wrong when a filter is built or read.

  An ARGUMENT fault blames a value that cannot be written, an OPERATOR fault a value that names no
  relation, and a READING fault a token.  The remaining ones only say what happened: an integer is
  beyond the digit limit, an instant is outside the calendar, a value cannot be a key, or a name
  stands for no filter.  An operator fault quotes the operator, so that an operator which cannot be
  shown gives the digit limit instead: see `Fault.ofOperator`.
-/
import QueryFilter.Argument.Key
import QueryFilter.Argument.Options
import QueryFilter.Token.Fault

namespace QueryFilter

/-- Why an argument was refused. -/
inductive Fault.Cause
  /-- There is no value. -/
  | nothing
  /-- An infinity or a not-a-number. -/
  | notFinite
  /-- No sort of value that a filter can hold. -/
  | unsupported
  /-- Not a sequence of values. -/
  | notSequence
  /-- Neither options nor a mapping. -/
  | notOptions
  /-- A mapping that is not made of options. -/
  | badOptions (problems : List OptionProblem)
deriving DecidableEq, Repr, Inhabited

/-- A failure to build or read a filter. -/
inductive Fault
  | argument (cause : Fault.Cause) (value : Argument)
  | operator (value : Argument)
  | reading (fault : ReadFault)
  | digitLimit
  | dateRange
  /-- A value that would have to be a key. -/
  | unkeyable (reason : Unkeyable)
  /-- A name that stands for no filter. -/
  | unbound (name : Text)
deriving Inhabited

namespace Fault

/-- The fault of a value that names no relation. -/
def ofOperator (value : Argument) : Fault :=
  if value.display?.isSome then .operator value else .digitLimit

/-- The fault of a literal without text. -/
def ofUnwritable (value : Argument) : Unwritable → Fault
  | .notFinite => .argument .notFinite value
  | .digitLimit => .digitLimit
  | .dateRange => .dateRange

/-- The message that an operator fault has unless it is given another one. -/
def operatorMessage (shown : Text) : Text := "Invalid operator for 'any': ".toList ++ shown

/-- An argument in a message. -/
def shown (value : Argument) : Text := value.display?.getD []

/-- The message of an argument fault.  What is wrong with options is not put into words. -/
def argumentMessage (value : Argument) : Cause → Text
  | .nothing => "None is not a valid filter literal".toList
  | .notFinite => "Non-finite number ".toList ++ shown value ++ " has no literal form".toList
  | .unsupported => "Unsupported filter value type: ".toList ++ value.typeName
  | .notSequence => "'in' requires a sequence of values, got ".toList ++ value.typeName
  | .notOptions =>
    "'any' options must be AnyOptions or a mapping, got ".toList ++ value.typeName
  | .badOptions _ => "Invalid 'any' options: ".toList

/-- The message of a fault. -/
def message : Fault → Text
  | .argument cause value => argumentMessage value cause
  | .operator value => operatorMessage (shown value)
  | .reading fault => fault.message
  | .digitLimit =>
    ("Exceeds the limit (4300 digits) for integer string conversion; " ++
      "use sys.set_int_max_str_digits() to increase the limit").toList
  | .dateRange => "date value out of range".toList
  | .unkeyable reason => reason.message
  | .unbound name => name.display

end Fault

/-- A mapped outcome is a success exactly when the outcome is. -/
theorem map_eq_ok_iff {ε α β : Type} {f : α → β} {x : Except ε α} {b : β} :
    x.map f = .ok b ↔ ∃ a, x = .ok a ∧ f a = b := by
  cases x <;> simp [Except.map]

/-- A mapped outcome fails with the fault of the outcome. -/
theorem map_eq_error_iff {ε α β : Type} {f : α → β} {x : Except ε α} {e : ε} :
    x.map f = .error e ↔ x = .error e := by
  cases x <;> simp [Except.map]

/-! ## Writing arguments -/

/-- The text of an argument in a filter. -/
def Argument.write : Argument → Except Fault Text
  | .nothing => .error (.argument .nothing .nothing)
  | .literal value => value.write.mapError (Fault.ofUnwritable (.literal value))
  | .operator op => .ok (Literal.quote op.name)
  | value => .error (.argument .unsupported value)

theorem Argument.write_literal {v : Literal} {w : Text} (h : v.write = .ok w) :
    Argument.write (.literal v) = .ok w := by
  rw [write, h]
  rfl

end QueryFilter
