/-
  CLAUSES FROM TOKENS — reading one clause off the front of a row of tokens.

  A clause is one of

      and | or | not | ( | )
      call                                           a call of a relation
      lambda                                         an `any` clause
      bare comparison (string | bare)                a comparison
      bare in ( (string | bare | ,)* )               a membership

  In the list of a membership commas are skipped wherever they stand, so they may be missing or
  repeated.  Whether parentheses balance and whether `and` stands between conditions is not asked.
  When no clause can be read, the fault names the first token that fits none of these forms.
-/
import QueryFilter.Clause.Basic
import QueryFilter.Token.Lambda

namespace QueryFilter

/-- The tokens that are still to be read, with the index of the first of them in the whole row. -/
structure Token.Row where
  index : Nat
  tokens : List Token
deriving DecidableEq, Repr, Inhabited

namespace Clause

open Token (Row)

/-- The value that a token stands for. -/
def value (policy : QuotePolicy) (token : Text) : Argument := .literal (Literal.read policy token)

/-- The clause of a call token. -/
def ofCall (policy : QuotePolicy) (index : Int) (t : Token) : Except ReadFault Clause := do
  let call ← Call.ofToken index t
  let operator := Argument.ofText call.name
  if operator.relation?.isNone then .error ⟨.unsupportedFunction call.name, index, some t⟩
  else .ok (.condition operator call.field (value policy call.value))

/-- The clause of a lambda token. -/
def ofLambda (policy : QuotePolicy) (index : Int) (t : Token) : Except ReadFault Clause := do
  let lambda ← Lambda.ofToken policy index t
  if (Argument.ofText lambda.operator).relation?.isNone then
    .error ⟨.unsupportedLambda lambda.operator, index, some t⟩
  else .ok (.any lambda.field (.options (.named lambda.operator) (value policy lambda.value)))

/-- The values of a list up to its closing parenthesis, and the row behind it. -/
def values (policy : QuotePolicy) (field : Text) :
    Nat → List Token → Except ReadFault (List Argument × Row)
  | index, [] => .error ⟨.unterminatedList field, index, none⟩
  | index, t :: ts =>
    match t.kind with
    | .closing => .ok ([], ⟨index + 1, ts⟩)
    | .string | .bare =>
      (values policy field (index + 1) ts).map fun (vs, row) => (value policy t.text :: vs, row)
    | .comma => values policy field (index + 1) ts
    | _ => .error ⟨.unsupportedElement field, index, some t⟩

/-- A membership whose field and `in` have been read. -/
def readMembership (policy : QuotePolicy) (field : Text) : Row → Except ReadFault (Clause × Row)
  | ⟨index, []⟩ => .error ⟨.expectedList field, index, none⟩
  | ⟨index, t :: ts⟩ =>
    if t.kind = .opening then
      (values policy field (index + 1) ts).map fun (vs, row) =>
        (.membership field (.collection .list vs), row)
    else .error ⟨.expectedList field, index, some t⟩

/-- A comparison whose field and operator have been read. -/
def readComparison (policy : QuotePolicy) (field operator : Text) :
    Row → Except ReadFault (Clause × Row)
  | ⟨index, []⟩ => .error ⟨.expectedValue operator field, index, none⟩
  | ⟨index, t :: ts⟩ =>
    if t.kind.isValue then
      .ok (.condition (.ofText operator) field (value policy t.text), ⟨index + 1, ts⟩)
    else .error ⟨.expectedValue operator field, index, some t⟩

/-- A clause whose field has been read. -/
def readCondition (policy : QuotePolicy) (field : Text) : Row → Except ReadFault (Clause × Row)
  | ⟨index, []⟩ => .error ⟨.expectedOperator field, index, none⟩
  | ⟨index, t :: ts⟩ =>
    match t.kind with
    | .isIn => readMembership policy field ⟨index + 1, ts⟩
    | .comparison => readComparison policy field t.text ⟨index + 1, ts⟩
    | _ => .error ⟨.unsupportedOperator field, index, some t⟩

/-- Read one clause off the front of a row; `none` at its end. -/
def read (policy : QuotePolicy) : Row → Except ReadFault (Option (Clause × Row))
  | ⟨_, []⟩ => .ok none
  | ⟨index, t :: ts⟩ =>
    let row : Row := ⟨index + 1, ts⟩
    match t.kind with
    | .and => .ok (some (.and, row))
    | .or => .ok (some (.or, row))
    | .not => .ok (some (.not, row))
    | .opening => .ok (some (.opening, row))
    | .closing => .ok (some (.closing, row))
    | .call => (ofCall policy index t).map fun clause => some (clause, row)
    | .lambda => (ofLambda policy index t).map fun clause => some (clause, row)
    | .bare => (readCondition policy t.text row).map some
    | .isIn | .comparison | .comma | .string => .error ⟨.expectedField, index, some t⟩

/-! ## Reading leaves less -/

theorem values_length {policy : QuotePolicy} {field : Text} {index : Nat} {ts : List Token}
    {vs : List Argument} {row : Row} (h : values policy field index ts = .ok (vs, row)) :
    row.tokens.length < ts.length := by
  fun_induction values policy field index ts generalizing vs with
  | case1 => cases h
  | case2 => cases h; simp
  | case3 index t ts _ ih =>
    obtain ⟨⟨vs', row'⟩, hv, heq⟩ := map_eq_ok_iff.1 h
    cases heq
    exact Nat.lt_succ_of_lt (ih hv)
  | case4 index t ts _ ih =>
    obtain ⟨⟨vs', row'⟩, hv, heq⟩ := map_eq_ok_iff.1 h
    cases heq
    exact Nat.lt_succ_of_lt (ih hv)
  | case5 index t ts _ ih => exact Nat.lt_succ_of_lt (ih h)
  | case6 => cases h

theorem readMembership_length {policy : QuotePolicy} {field : Text} {row row' : Row} {c : Clause}
    (h : readMembership policy field row = .ok (c, row')) :
    row'.tokens.length < row.tokens.length := by
  unfold readMembership at h
  split at h
  · cases h
  · split at h
    · obtain ⟨⟨vs, r⟩, hv, heq⟩ := map_eq_ok_iff.1 h
      cases heq
      exact Nat.lt_succ_of_lt (values_length hv)
    · cases h

theorem readComparison_length {policy : QuotePolicy} {field operator : Text} {row row' : Row}
    {c : Clause} (h : readComparison policy field operator row = .ok (c, row')) :
    row'.tokens.length < row.tokens.length := by
  unfold readComparison at h
  split at h
  · cases h
  · split at h
    · cases h; simp
    · cases h

theorem readCondition_length {policy : QuotePolicy} {field : Text} {row row' : Row} {c : Clause}
    (h : readCondition policy field row = .ok (c, row')) :
    row'.tokens.length < row.tokens.length := by
  unfold readCondition at h
  split at h
  · cases h
  · split at h
    · exact Nat.lt_succ_of_lt (readMembership_length h)
    · exact Nat.lt_succ_of_lt (readComparison_length h)
    · cases h

/-- Reading a clause uses up at least one token. -/
theorem read_length {policy : QuotePolicy} {row row' : Row} {c : Clause}
    (h : read policy row = .ok (some (c, row'))) : row'.tokens.length < row.tokens.length := by
  unfold read at h
  split at h
  · cases h
  · rename_i index t ts
    simp only at h
    split at h
    case h_6 | h_7 =>
      obtain ⟨c', _, heq⟩ := map_eq_ok_iff.1 h
      cases heq
      simp
    case h_8 =>
      obtain ⟨⟨c', r⟩, hr, heq⟩ := map_eq_ok_iff.1 h
      cases heq
      exact Nat.lt_succ_of_lt (readCondition_length hr)
    all_goals cases h
    all_goals simp

end Clause

end QueryFilter
