/-
  REPORTS — errors that are made by hand, without a failure behind them.

  A report has a message and, by its sort, the value, the operator or the place that it is
  about.  A report with an empty message has its title for one, and so has one without a
  message, except that an operator report without a message quotes its operator.  A message is a
  text, or an operator standing for its name.  Which fields can be given for a report, its form
  tells.  Every report belongs to the errors of this library, and each sort but the general one
  also to one of the two common families.
-/
import QueryFilter.Fault
import QueryFilter.Report.Form

namespace QueryFilter

/-- What a report is about.  A place is whatever the maker of the report noted down for it. -/
inductive Report.Subject (place : Type)
  /-- Nothing in particular, but possibly some values. -/
  | general (values : List Argument)
  | argument (value : Argument)
  | operator (value : Argument)
  | reading (token index position : place)
deriving Inhabited

/-- An error with its message. -/
structure Report (place : Type) where
  /-- The message as it was given. -/
  message : Argument
  /-- The message as a text. -/
  text : Text
  subject : Report.Subject place
deriving Inhabited

/-- Why a report cannot be made. -/
inductive Report.Problem
  /-- The fields do not fit into the form. -/
  | misfit (form : Report.Form) (reason : Report.Misfit)
  /-- The message is no text. -/
  | badMessage (message : Argument)
  /-- There is no message, and the operator cannot be shown. -/
  | digitLimit
deriving Inhabited

/-- The families of errors. -/
inductive Report.Family
  /-- All errors of this library. -/
  | library
  /-- Errors of the sort of a value. -/
  | sort
  /-- Errors of the value itself. -/
  | value
deriving DecidableEq, Repr, Inhabited

namespace Report

variable {place : Type}

/-- A problem in words. -/
def Problem.message : Problem → Text
  | .misfit form reason => reason.message form
  | .badMessage message =>
    "__str__ returned non-string (type ".toList ++ message.fullTypeName ++ [')']
  | .digitLimit => Fault.digitLimit.message

/-- The form of the reports about a subject. -/
def Subject.form : Subject place → Form
  | .general _ => .general
  | .argument _ => .argument
  | .operator _ => .operator
  | .reading .. => .reading

/-- The title of the reports about a subject. -/
def Subject.title (subject : Subject place) : Text := subject.form.title

/-- The message that a subject has when none is given.  An operator that cannot be shown has
    none. -/
def Subject.message : Subject place → Except Problem Argument
  | .operator value =>
    match value.display? with
    | some shown => .ok (.ofText (Fault.operatorMessage shown))
    | none => .error .digitLimit
  | subject => .ok (.ofText subject.title)

/-- The report about a subject with the given message. -/
def make (message : Argument) (subject : Subject place) : Except Problem (Report place) := do
  let message ← match message with
    | .nothing => subject.message
    | message => .ok (if message.isEmpty then .ofText subject.title else message)
  match message.text? with
  | some text => return ⟨message, text, subject⟩
  | none => .error (.badMessage message)

/-- The report whose form was filled in with that many values by place, besides the report itself,
    and with values under these names. -/
def fill (places : Nat) (names : List Text) (message : Argument) (subject : Subject place) :
    Except Problem (Report place) :=
  match subject.form.misfit? (places + 1) names with
  | some misfit => .error (.misfit subject.form misfit)
  | none => make message subject

/-- The values that a report carries, its message first. -/
def arguments (r : Report place) : List Argument :=
  r.message ::
    match r.subject with
    | .general values => values
    | _ => []

/-- The families that a report belongs to. -/
def families (r : Report place) : List Family :=
  match r.subject with
  | .general _ => [.library]
  | .argument _ => [.library, .sort]
  | .operator _ => [.library, .value]
  | .reading .. => [.library, .value]

/-- An empty message is as good as none, but for an operator report. -/
example : (make (.ofText []) (.operator .nothing : Subject Nat)).toOption.map text =
    some "InvalidOperatorError".toList := by
  decide

end Report

end QueryFilter
