/-
  FORMS — which fields a report takes, and how they may be given.

  A form is filled in with values by PLACE, which go to its placed fields in order, and with values
  by NAME.  The first placed field is always the report itself, so that a form with a message alone
  takes two values by place.  Of several things that do not fit the first in this order counts:

  1. a name, in the order of the names, whose field is there already or which the form does not
     have;
  2. more values by place than the form takes;
  3. a required field without a value.
-/
import QueryFilter.Text.Basic

namespace QueryFilter

/-- The fields of a report. -/
structure Report.Form where
  /-- The title of the report. -/
  title : Text
  /-- The fields that can be given by place. -/
  placed : List Text
  /-- How many of them are required. -/
  required : Nat
  /-- Whether further values may follow by place. -/
  isOpen : Bool
  /-- The fields that can be given by name only. -/
  named : List Text
deriving DecidableEq, Repr, Inhabited

/-- What does not fit into a form. -/
inductive Report.Misfit
  /-- A field that is given by place and by name. -/
  | repeated (field : Text)
  /-- A name that the form does not have. -/
  | unknown (name : Text)
  /-- Too many values by place, together with some fields that can be given by name only. -/
  | tooMany (places named : Nat)
  /-- A required field is not given. -/
  | missing (field : Text)
deriving DecidableEq, Repr, Inhabited

namespace Report

namespace Form

/-- The field that stands for the report itself. -/
def self : Text := "self".toList

/-- The field of the message. -/
def message : Text := "message".toList

/-- The form of a report about nothing in particular. -/
def general : Form := ⟨"ODataSearchError".toList, [self, message], 1, true, []⟩

/-- The form of a report about an argument. -/
def argument : Form := ⟨"FilterArgumentError".toList, [self, message], 2, false, ["argument".toList]⟩

/-- The form of a report about an operator. -/
def operator : Form :=
  ⟨"InvalidOperatorError".toList, [self, "operator".toList, message], 2, false, []⟩

/-- The form of a report about a token. -/
def reading : Form :=
  ⟨"FilterSyntaxError".toList, [self, message], 2, false,
    ["token".toList, "index".toList, "position".toList]⟩

/-! ## Filling in -/

/-- What is wrong with a name beside that many values by place. -/
def nameMisfit? (form : Form) (places : Nat) (name : Text) : Option Misfit :=
  if name ∈ form.placed.take places then some (.repeated name)
  else if name ∈ form.placed ++ form.named then none
  else some (.unknown name)

/-- The first required field that is given neither by place nor by name. -/
def missing? (form : Form) (places : Nat) (names : List Text) : Option Misfit :=
  (((form.placed.take form.required).drop places).find? (· ∉ names)).map .missing

/-- What does not fit when a form is filled in with that many values by place, the report itself
    included, and with values under these names. -/
def misfit? (form : Form) (places : Nat) (names : List Text) : Option Misfit :=
  match names.findSome? (form.nameMisfit? places) with
  | some misfit => some misfit
  | none =>
    if !form.isOpen ∧ form.placed.length < places then
      some (.tooMany places (names.filter (· ∈ form.named)).length)
    else form.missing? places names

end Form

namespace Misfit

/-- A count in words. -/
def count (n : Nat) : Text := Nat.toDigits 10 n

/-- A noun for that many things. -/
def plural (n : Nat) (noun : Text) : Text := if n = 1 then noun else noun ++ ['s']

/-- How many values a form takes by place. -/
def span (form : Form) : Text :=
  if form.required = form.placed.length then count form.required
  else "from ".toList ++ count form.required ++ " to ".toList ++ count form.placed.length

/-- The values that were given, where those by name are mentioned only if there are any. -/
def given (places named : Nat) : Text :=
  if named = 0 then count places
  else
    count places ++ ' ' :: plural places "positional argument".toList ++ " (and ".toList ++
      count named ++ ' ' :: plural named "keyword-only argument".toList ++ [')']

/-- The wording of a misfit. -/
def message (form : Form) (misfit : Misfit) : Text :=
  form.title ++ ".__init__() ".toList ++
    match misfit with
    | .repeated field => "got multiple values for argument '".toList ++ field ++ ['\'']
    | .unknown name => "got an unexpected keyword argument '".toList ++ name ++ ['\'']
    | .tooMany places named =>
      "takes ".toList ++ span form ++ ' ' :: plural form.placed.length "positional argument".toList ++
        " but ".toList ++ given places named ++ " were given".toList
    | .missing field => "missing 1 required positional argument: '".toList ++ field ++ ['\'']

end Misfit

example : Form.argument.misfit? 1 [] = some (.missing Form.message) := by decide
example : Form.operator.misfit? 2 ["operator".toList] = some (.repeated "operator".toList) := by
  decide
example : (Form.reading.misfit? 4 ["index".toList]).map (Misfit.message Form.reading) =
    some ("FilterSyntaxError.__init__() takes 2 positional arguments but 4 positional arguments " ++
      "(and 1 keyword-only argument) were given").toList := by
  decide +kernel

end Report

end QueryFilter
