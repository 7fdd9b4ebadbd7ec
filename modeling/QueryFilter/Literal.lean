/-
  LITERALS — the values that a filter can hold, their text, and reading it back.

  Writing:
  * truth values are `true` and `false`, numbers are decimal, with the fewest digits for a double;
  * a text stands in single quotes, and each single quote inside it is written twice;
  * dates and date-times become timestamps in universal time;
  * a raw token stands for itself.

  Three sorts of number and time have no text: numbers that are not finite, integers beyond the
  digit limit, and instants outside the years 1 to 9999.

  Reading: a token in quotes, single or double, is a text; a numeral is an integer, or a double if
  it has a point or an exponent, unless it is beyond the digit limit or the range of doubles;
  anything else stays a raw token.  `Literal.read` never fails.
-/
import QueryFilter.Number.Decimal
import QueryFilter.Number.Shortest
import QueryFilter.Policy
import QueryFilter.Time.Timestamp

namespace QueryFilter

/-- A value that a filter can hold. -/
inductive Literal
  | bool (b : Bool)
  | int (n : Int)
  | double (d : Double)
  | decimal (d : Decimal)
  | text (s : Text)
  /-- A token that is written exactly as it is. -/
  | raw (token : Text)
  | dateTime (t : DateTime)
  | date (d : Date)
deriving DecidableEq, Repr, Inhabited

/-- Why a literal has no text. -/
inductive Unwritable
  /-- An infinity or a not-a-number. -/
  | notFinite
  /-- An integer of too many digits. -/
  | digitLimit
  /-- An instant outside the years 1 to 9999. -/
  | dateRange
deriving DecidableEq, Repr, Inhabited

namespace Literal

/-! ## Writing -/

/-- Write every single quote twice. -/
def doubleQuotes (s : Text) : Text := s.flatMap fun c => if c = '\'' then ['\'', '\''] else [c]

/-- A text as a literal: in single quotes, with the quotes inside it doubled. -/
def quote (s : Text) : Text := '\'' :: doubleQuotes s ++ ['\'']

/-- A text, or the reason why there is none. -/
def orElse (reason : Unwritable) : Option Text → Except Unwritable Text
  | some s => .ok s
  | none => .error reason

/-- The text of a literal in a filter. -/
def write : Literal → Except Unwritable Text
  | .bool b => .ok (if b then "true".toList else "false".toList)
  | .int n => orElse .digitLimit (Integer.text? n)
  | .double (.finite x) => .ok x.text
  | .double _ => .error .notFinite
  | .decimal d => if d.isFinite then .ok d.text else .error .notFinite
  | .text s => .ok (quote s)
  | .raw token => .ok token
  | .dateTime t => orElse .dateRange t.instant.text?
  | .date d => orElse .dateRange d.instant.text?

/-! ## Reading -/

/-- Read two adjacent quotes as one, from left to right. -/
def collapse (q : Char) : Text → Text
  | c :: d :: s => if c = q ∧ d = q then q :: collapse q s else c :: collapse q (d :: s)
  | s => s

/-- The quote character around a token and the text inside, if the token is quoted: it starts with
    a quote, and another one of the same sort ends it. -/
def unquote? : Text → Option (Char × Text)
  | [] => none
  | q :: s => if q = '\'' ∨ q = '"' then (Text.dropLast? q s).map fun inner => (q, inner) else none

/-- The number that a numeral denotes, if it is within the limits. -/
def ofNumeral? (n : Numeral) : Option Literal :=
  if n.isWhole then
    if n.whole.length ≤ Integer.digitLimit then some (.int n.integer) else none
  else
    match n.double with
    | .finite x => some (.double (.finite x))
    | _ => none

/-- The literal that a token stands for. -/
def read (policy : QuotePolicy) (token : Text) : Literal :=
  match unquote? token with
  | some (q, inner) =>
    match policy with
    | .doubled => .text (collapse q inner)
    | .literal => .text inner
  | none => ((Numeral.read? token).bind ofNumeral?).getD (.raw token)

example : read .doubled "'O''Brien'".toList = .text "O'Brien".toList := by decide
example : read .literal "'O''Brien'".toList = .text "O''Brien".toList := by decide
example : read .doubled "-007".toList = .int (-7) := by decide
example : read .doubled "true".toList = .raw "true".toList := by decide

end Literal

end QueryFilter
