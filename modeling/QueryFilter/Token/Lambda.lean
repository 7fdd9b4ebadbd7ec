/-
  LAMBDAS — a lambda token taken apart into field, variable, operator and value.

      field '/any(' blank* variable blank* ':' body ')'

  possibly inside one more pair of parentheses, blanks allowed.  The last parenthesis closes the
  lambda.  The body is tokenized by itself; in parentheses of its own or not, it must be ONE
  condition: a call, or a bare word, a comparison and a value.  And that condition must be about the
  variable.
-/
import QueryFilter.Token.Call
import QueryFilter.Token.Cursor

namespace QueryFilter

/-- A lambda taken apart. -/
structure Lambda where
  field : Text
  binder : Text
  operator : Text
  value : Text
deriving DecidableEq, Repr, Inhabited

/-- A lambda with its body still in one piece. -/
structure Lambda.Head where
  field : Text
  binder : Text
  body : Text
deriving DecidableEq, Repr, Inhabited

namespace Lambda

/-- The text inside a pair of parentheses, if it starts with one. -/
def inside (s : Text) : Text :=
  match s with
  | '(' :: rest => rest.dropLast
  | _ => s

/-- Split a lambda before its body: field, variable and colon. -/
def Head.ofText? (text : Text) : Option Head :=
  let s := Text.trimStart (inside text.strip)
  match Token.collection? (Token.word s), Token.afterWord s with
  | some field, '(' :: rest =>
    let rest := Text.trimStart rest
    let binder := rest.takeWhile Text.isNameChar
    match Text.trimStart (rest.dropWhile Text.isNameChar) with
    | ':' :: rest =>
      if binder = [] then none
      else (Text.dropLast? ')' (Text.trimEnd rest)).map fun body => ⟨field, binder, body⟩
    | _ => none
  | _, _ => none

/-- Tokens without the parentheses around them, if they stand in parentheses. -/
def unwrap (body : List Token) : List Token :=
  match body with
  | first :: rest =>
    if first.kind = .opening ∧ (rest.getLast?.map Token.kind) = some .closing then rest.dropLast
    else body
  | [] => []

/-- The subject, the operator and the value of a body; `none` if it is not one condition.  A call in
    the body is taken apart as any call is, and can fail as any call can. -/
def condition? (index : Int) (body : List Token) : Except ReadFault (Option (Text × Text × Text)) :=
  match body with
  | [t] =>
    if t.kind = .call then (Call.ofToken index t).map fun c => some (c.field, c.name, c.value)
    else .ok none
  | [s, o, v] =>
    if s.kind = .bare ∧ o.kind = .comparison ∧ v.kind.isValue then
      .ok (some (s.text, o.text, v.text))
    else .ok none
  | _ => .ok none

/-- Take a lambda token apart. -/
def ofToken (policy : QuotePolicy) (index : Int) (t : Token) : Except ReadFault Lambda :=
  match Head.ofText? t.text with
  | none => .error ⟨.malformedLambda, index, some t⟩
  | some head => do
    match ← condition? index (unwrap (Token.tokenize policy head.body)) with
    | none => .error ⟨.notOneCondition, index, some t⟩
    | some (subject, operator, value) =>
      if subject = head.binder then .ok ⟨head.field, head.binder, operator, value⟩
      else .error ⟨.otherSubject head.binder subject, index, some t⟩

end Lambda

end QueryFilter
