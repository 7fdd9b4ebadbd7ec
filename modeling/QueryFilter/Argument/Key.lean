/-
  KEYS — when two arguments are the same element of a set, or the same key of a mapping.

  Sameness is by value, not by sort.  Numbers are the same when their amounts are, so that `true`,
  `1` and `1.0` are one key; an operator is the same as its name; ranges are the same when they hold
  the same integers, tuples when their elements are; a date-time with an offset is the same as one
  with another offset at the same instant, but never as one without.  An argument of this kind has a
  KEY, and two arguments are the same exactly when their keys are equal.

  A not-a-number and a value of no known sort are different from everything, each from itself
  too, and so is whatever holds one.  Arguments that can change, and the signaling
  not-a-numbers, cannot be keys at all.
-/
import QueryFilter.Argument.Basic
import QueryFilter.Number.Amount

namespace QueryFilter

/-- What makes an argument the same as another one. -/
inductive Key
  | nothing
  /-- A number with its imaginary part. -/
  | number (re im : Amount)
  | text (s : Text)
  | raw (token : Text)
  | octets (bytes : List UInt8)
  /-- A date-time, with or without an offset. -/
  | moment (hasOffset : Bool) (instant : Instant)
  | date (d : Date)
  | timeOfDay (t : TimeOfDay)
  /-- The integers of a range: their count, the first, and the step if there is a second one. -/
  | range (length : Nat) (start step : Option Int)
  | options (operator : Text) (value : Key)
  /-- The end of a tuple. -/
  | done
  /-- The first element of a tuple and the others. -/
  | element (first others : Key)
deriving DecidableEq, Repr, Inhabited

/-- Why an argument cannot be a key. -/
inductive Unkeyable
  /-- Arguments of this sort can change. -/
  | sort (name : Text)
  /-- A signaling not-a-number. -/
  | signaling
deriving DecidableEq, Repr, Inhabited

/-- The reason in words. -/
def Unkeyable.message : Unkeyable → Text
  | .sort name => "unhashable type: '".toList ++ name ++ ['\'']
  | .signaling => "Cannot hash a signaling NaN value".toList

namespace Key

/-- The key of a number. -/
def ofAmounts? (re im : Option Amount) : Option Key := do return .number (← re) (← im)

/-- The key of a real number. -/
def ofAmount (a : Amount) : Key := .number a .zero

/-- The key of a range. -/
def ofRange (start stop step : Int) : Key :=
  let length := Argument.rangeLength start stop step
  .range length (if 0 < length then some start else none) (if 1 < length then some step else none)

/-- The key of a literal; `none` if it is different from everything. -/
def ofLiteral : Literal → Except Unkeyable (Option Key)
  | .bool b => .ok (some (ofAmount (.ofInt b.toInt)))
  | .int n => .ok (some (ofAmount (.ofInt n)))
  | .double d => .ok ((Amount.ofDouble? d).map ofAmount)
  | .decimal (.nan _ true _) => .error .signaling
  | .decimal d => .ok ((Amount.ofDecimal? d).map ofAmount)
  | .text s => .ok (some (.text s))
  | .raw token => .ok (some (.raw token))
  | .dateTime t => .ok (some (.moment t.offset.isSome t.instant))
  | .date d => .ok (some (.date d))

/-- The name of an operator, found or not. -/
def operatorText : OperatorName → Text
  | .member op => op.name
  | .named name => name

end Key

mutual

/-- The key of an argument; `none` if it is different from everything. -/
def Argument.key : Argument → Except Unkeyable (Option Key)
  | .nothing => .ok (some .nothing)
  | .literal value => Key.ofLiteral value
  | .operator op => .ok (some (.text op.name))
  | .octets false bytes => .ok (some (.octets bytes))
  | .collection .tuple elements => Argument.tupleKey elements
  | .range start stop step => .ok (some (.ofRange start stop step))
  | .options op value => (value.key).map fun key => key.map (.options (Key.operatorText op))
  | .timeOfDay t => .ok (some (.timeOfDay t))
  | .complex re im => .ok (Key.ofAmounts? (Amount.ofDouble? re) (Amount.ofDouble? im))
  | .object => .ok none
  | .octets true _ => .error (.sort "bytearray".toList)
  | .collection .list _ => .error (.sort "list".toList)
  | .collection .set _ => .error (.sort "set".toList)
  | .mapping false _ => .error (.sort "dict".toList)
  | .mapping true _ => .error (.sort "mappingproxy".toList)

/-- The key of a tuple with the given elements. -/
def Argument.tupleKey : List Argument → Except Unkeyable (Option Key)
  | [] => .ok (some .done)
  | a :: as => do
    let first ← a.key
    let others ← Argument.tupleKey as
    return do return .element (← first) (← others)

end

namespace Argument

/-! ## Sets -/

/-- The elements that are different from all before them; `seen` are the keys of those. -/
def distinct (seen : List Key) : List Argument → Except Unkeyable (List Argument)
  | [] => .ok []
  | a :: as => do
    match ← a.key with
    | none => return a :: (← distinct seen as)
    | some key =>
      if key ∈ seen then distinct seen as else return a :: (← distinct (key :: seen) as)

/-- The set of the given elements: of those that are the same, the first. -/
def ofElements (elements : List Argument) : Except Unkeyable Argument :=
  (distinct [] elements).map (.collection .set)

example : (distinct [] [.literal (.bool true), .literal (.int 1)]).toOption.map List.length =
    some 1 := by
  decide +kernel  -- a truth value is the same as its number
example : (distinct [] [.object, .object]).toOption.map List.length = some 2 := by
  decide +kernel  -- nothing is the same as a value of no known sort

/-! ## Mappings -/

/-- Give a key a value: in the place of the entry that has the key already, with its spelling of the
    key, or else at the end. -/
def putEntry (key : Option Key) (k v : Argument) :
    List (Option Key × Argument × Argument) → List (Option Key × Argument × Argument)
  | [] => [(key, k, v)]
  | (key', k', v') :: entries =>
    if key.isSome ∧ key' = key then (key', k', v) :: entries
    else (key', k', v') :: putEntry key k v entries

/-- Enter entries into a mapping one after the other. -/
def enter (entered : List (Option Key × Argument × Argument)) :
    List (Argument × Argument) → Except Unkeyable (List (Option Key × Argument × Argument))
  | [] => .ok entered
  | (k, v) :: entries => do
    let key ← k.key
    enter (putEntry key k v entered) entries

/-- The mapping with the given entries: of those with the same key, the first key with the last
    value. -/
def ofEntries (readOnly : Bool) (entries : List (Argument × Argument)) : Except Unkeyable Argument :=
  (enter [] entries).map fun entered => .mapping readOnly (entered.map Prod.snd)

end Argument

end QueryFilter
