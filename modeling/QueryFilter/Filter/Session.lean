/-
  SESSIONS — several filters under names, and the steps that work on them.

  A session starts with one empty filter.  A step makes a filter, copies one, adds a clause to one,
  or asks about one.  Filters are values: a copy shares nothing with what it was copied from, and a
  step that fails leaves the session as it was.
-/
import QueryFilter.Filter.OfText

namespace QueryFilter

/-- Filters under names. -/
structure Session where
  filters : List (Text × Filter)
deriving DecidableEq, Repr, Inhabited

namespace Session

/-- The session with one empty filter. -/
def start (name : Text) : Session := ⟨[(name, .empty)]⟩

/-- The filter under a name. -/
def get (s : Session) (name : Text) : Except Fault Filter :=
  match s.filters.lookup name with
  | some f => .ok f
  | none => .error (.unbound name)

/-- Put a filter under a name, in the place of the one that was there. -/
def bind (name : Text) (f : Filter) : List (Text × Filter) → List (Text × Filter)
  | [] => [(name, f)]
  | (n, g) :: rest => if n = name then (n, f) :: rest else (n, g) :: bind name f rest

/-- The session with a filter under a name. -/
def set (s : Session) (name : Text) (f : Filter) : Session := ⟨bind name f s.filters⟩

/-! ## Steps -/

/-- What can be done with the filter of a name. -/
inductive Action
  /-- Start it anew. -/
  | new
  /-- Read it from a text. -/
  | parse (policy : QuotePolicy) (text : Text)
  /-- Put a copy under another name. -/
  | copy (target : Text)
  | add (clause : Clause)
  /-- Tell its size, its text and its display. -/
  | info
  /-- Compare it with the filter of another name. -/
  | equal (other : Text)
  /-- Compare it with a value that is no filter. -/
  | equalValue (value : Argument)
  /-- Use it as a key. -/
  | hash
  /-- Compare it with what its text is read as. -/
  | reparse (policy : QuotePolicy)

/-- What a step answers. -/
inductive Answer
  /-- The step has been done. -/
  | done
  /-- A clause has been added to the filter itself. -/
  | same
  | info (size : Nat) (text display : Text)
  | equal (result : Bool)
  | sameParts (result : Bool)
deriving DecidableEq, Repr, Inhabited

/-- The sort of a filter, which can change and is no key. -/
def filterSort : Unkeyable := .sort "SearchBuilder".toList

/-- The session after an action on the filter of a name, and the answer.  Only a filter that is
    started or read needs not be there before. -/
def step (s : Session) (name : Text) : Action → Except Fault (Session × Answer)
  | .new => .ok (s.set name .empty, .done)
  | .parse policy text => (Filter.ofText policy text).map fun f => (s.set name f, .done)
  | .copy target => (s.get name).map fun f => (s.set target f, .done)
  | .add clause => do
    let f ← s.get name
    (f.add clause).map fun f => (s.set name f, .same)
  | .info => (s.get name).map fun f => (s, .info f.size f.text f.display)
  | .equal other => do
    let f ← s.get name
    (s.get other).map fun g => (s, .equal (f == g))
  | .equalValue _ => (s.get name).map fun _ => (s, .equal false)
  | .hash => do
    let _ ← s.get name
    .error (.unkeyable filterSort)
  | .reparse policy => do
    let f ← s.get name
    (Filter.ofText policy f.text).map fun g => (s, .sameParts (g == f))

/-- One step of a run: its answer or fault, and the session after it. -/
def advance (s : Session) (name : Text) (action : Action) : Session × Except Fault Answer :=
  match s.step name action with
  | .ok (s', answer) => (s', .ok answer)
  | .error fault => (s, .error fault)

/-- A run of steps: after each one, its answer or fault, and the session. -/
def run (s : Session) : List (Text × Action) → List (Except Fault Answer × Session)
  | [] => []
  | (name, action) :: steps =>
    let (s', answer) := s.advance name action
    (answer, s') :: run s' steps

end Session

end QueryFilter
