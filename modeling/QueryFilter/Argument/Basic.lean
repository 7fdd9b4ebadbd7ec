/-
  ARGUMENTS — everything that a caller may hand over as a value, fit for a filter or not.

  Only literals, and operators standing for their names, can be written into a filter; collections
  are wanted where a clause takes several values or named options; and the remaining forms exist so
  that they can be refused, with their sort in the message and themselves attached to the error.
-/
import QueryFilter.Literal
import QueryFilter.Operator

namespace QueryFilter

/-- An operator as the caller gave it: itself, or a name that may or may not be one's. -/
inductive OperatorName
  | member (op : Operator)
  | named (name : Text)
deriving DecidableEq, Repr, Inhabited

/-- The sorts of element collections. -/
inductive CollectionKind
  | list | tuple | set
deriving DecidableEq, Repr, Inhabited

/-- A value from outside. -/
inductive Argument
  /-- The absence of a value. -/
  | nothing
  | literal (value : Literal)
  | operator (op : Operator)
  /-- Raw octets, which can be of a fixed or a growing sort. -/
  | octets (growing : Bool) (bytes : List UInt8)
  | collection (kind : CollectionKind) (elements : List Argument)
  /-- The integers from `start` on in steps of `step`, up to `stop` and without it. -/
  | range (start stop step : Int)
  /-- Keys with their values, in the order in which the keys came first. -/
  | mapping (readOnly : Bool) (entries : List (Argument × Argument))
  /-- Options of an `any` clause that have passed their check. -/
  | options (operator : OperatorName) (value : Argument)
  | timeOfDay (time : TimeOfDay)
  | complex (re im : Double)
  /-- A value of no known sort. -/
  | object
deriving Inhabited

/-- The condition that an `any` clause puts on the elements. -/
structure AnyOptions where
  operator : OperatorName
  value : Argument
deriving Inhabited

namespace Argument

/-- A text as an argument. -/
def ofText (s : Text) : Argument := .literal (.text s)

/-- What an argument is called in messages. -/
def typeName : Argument → Text
  | .nothing => "NoneType".toList
  | .literal (.bool _) => "bool".toList
  | .literal (.int _) => "int".toList
  | .literal (.double _) => "float".toList
  | .literal (.decimal _) => "Decimal".toList
  | .literal (.text _) => "str".toList
  | .literal (.raw _) => "RawToken".toList
  | .literal (.dateTime _) => "datetime".toList
  | .literal (.date _) => "date".toList
  | .operator _ => "Operator".toList
  | .octets false _ => "bytes".toList
  | .octets true _ => "bytearray".toList
  | .collection .list _ => "list".toList
  | .collection .tuple _ => "tuple".toList
  | .collection .set _ => "set".toList
  | .range .. => "range".toList
  | .mapping false _ => "dict".toList
  | .mapping true _ => "mappingproxy".toList
  | .options .. => "AnyOptions".toList
  | .timeOfDay _ => "time".toList
  | .complex .. => "complex".toList
  | .object => "object".toList

/-- The group of sorts that an argument's sort belongs to, with the point that divides the two:
    there is one of decimals and one of times. -/
def typeGroup : Argument → Text
  | .literal (.decimal _) => "decimal.".toList
  | .literal (.dateTime _) | .literal (.date _) | .timeOfDay _ => "datetime.".toList
  | _ => []

/-- What an argument is called in full. -/
def fullTypeName (a : Argument) : Text := a.typeGroup ++ a.typeName

/-! ## Operators and texts -/

/-- The operator that an argument names: an operator names itself, a text the operator of that
    name, and anything else none. -/
def operator? : Argument → Option Operator
  | .operator op => some op
  | .literal (.text name) => Operator.ofName? name
  | _ => none

/-- The relation that an argument names. -/
def relation? (a : Argument) : Option Relation := a.operator?.bind Operator.relation?

/-- A text, or an operator as its name. -/
def text? : Argument → Option Text
  | .literal (.text s) => some s
  | .operator op => some op.name
  | _ => none

/-- The argument form of an operator name. -/
def ofOperatorName : OperatorName → Argument
  | .member op => .operator op
  | .named name => ofText name

/-! ## Collections -/

/-- How many integers a range holds. -/
def rangeLength (start stop step : Int) : Nat :=
  if 0 < step then ((stop - start + step - 1) / step).toNat
  else if step < 0 then ((start - stop - step - 1) / (-step)).toNat
  else 0

/-- The elements of a sequence: a list, a tuple or a range.  A set has no order, and texts and
    octets are not taken as sequences of their parts. -/
def elements? : Argument → Option (List Argument)
  | .collection .list elements => some elements
  | .collection .tuple elements => some elements
  | .range start stop step =>
    some <| (List.range (rangeLength start stop step)).map fun (i : Nat) =>
      .literal (.int (start + i * step))
  | _ => none

/-- An argument without content: nothing, false, zero, or empty. -/
def isEmpty : Argument → Bool
  | .nothing => true
  | .literal (.bool b) => !b
  | .literal (.int n) => n == 0
  | .literal (.double d) => d.isZero
  | .literal (.decimal d) => d.isZero
  | .literal (.text s) => s.isEmpty
  | .octets _ bytes => bytes.isEmpty
  | .collection _ elements => elements.isEmpty
  | .range start stop step => rangeLength start stop step == 0
  | .mapping _ entries => entries.isEmpty
  | .complex re im => re.isZero && im.isZero
  | .literal (.raw _) | .literal (.dateTime _) | .literal (.date _) | .operator _ | .options ..
  | .timeOfDay _ | .object => false

end Argument

end QueryFilter
