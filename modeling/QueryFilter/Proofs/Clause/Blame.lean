/-
  BLAME — where the reading of a clause stops, and what it blames.

  1. **What is blamed** — `Blames policy e back`: the fault `e` is about the front of
     `back`, which is the end of the row, a token that fits in nowhere, or a call or lambda
     that cannot be taken apart.
  2. **Where it stops** — `Stops r index e front back`: behind `front` the reader `r`
     blames what comes next, its index counts the tokens of `front`, and nothing behind the
     blamed token matters.  A reader that takes one token and leaves the rest to another
     one stops where that one does (`Stops.cons`), so each reader of the grammar has one
     short proof, along its own recursion.
  3. **What was read before** — the tokens in front of the blamed one are the beginning of an item
     (`Begun`), and some further tokens complete it (`exists_item_of_begun`).
  4. **Calls and lambdas** — a scanned call or lambda fails for a few of the causes only
     (`fault_of_scanned_call`, `fault_of_lambda`).
-/
import QueryFilter.Proofs.Clause.Item

namespace QueryFilter

/-- A cause that no tokens of a scan have: a call without name or parentheses, or an
    operator that is no relation. -/
def ReadFault.Cause.Foreign : ReadFault.Cause → Prop
  | .malformedCall => True
  | .unsupportedFunction _ => True
  | .unsupportedLambda _ => True
  | _ => False

namespace Clause

open Token (Row)

variable {policy : QuotePolicy}

/-! ## What is blamed -/

/-- What a fault says about the rest of the row that begins at its index. -/
inductive Blames (policy : QuotePolicy) (e : ReadFault) : List Token → Prop
  /-- The row ends too early. -/
  | tooShort (culprit : e.culprit = none) (familiar : ¬ e.cause.Foreign) : Blames policy e []
  /-- A token of another kind should stand here. -/
  | misplaced {t : Token} {ts : List Token} (culprit : e.culprit = some t)
      (familiar : ¬ e.cause.Foreign) : Blames policy e (t :: ts)
  | call {t : Token} {ts : List Token} (kind : t.kind = .call)
      (fault : ofCall policy e.index t = .error e) : Blames policy e (t :: ts)
  | lambda {t : Token} {ts : List Token} (kind : t.kind = .lambda)
      (fault : ofLambda policy e.index t = .error e) : Blames policy e (t :: ts)

/-! ## Where a reader stops -/

/-- A reader of tokens, of which the first one has a given index, stops behind `front`. -/
structure Stops {α : Type} (policy : QuotePolicy) (r : List Token → Except ReadFault α) (index : Nat)
    (e : ReadFault) (front back : List Token) : Prop where
  index_eq : e.index = (index + front.length : Nat)
  blames : Blames policy e back
  firm : ∀ t ts, back = t :: ts → ∀ rest, r (front ++ t :: rest) = .error e

namespace Stops

variable {α β : Type} {r : List Token → Except ReadFault α} {index : Nat}

/-- At the end of a row nothing can follow. -/
theorem tooShort {cause : ReadFault.Cause} (hcause : ¬ cause.Foreign) :
    Stops policy r index ⟨cause, index, none⟩ [] [] where
  index_eq := rfl
  blames := .tooShort rfl hcause
  firm := by
    intro t ts h
    cases h

/-- A token that the reader cannot take at all. -/
theorem misplaced {cause : ReadFault.Cause} {t : Token} (hcause : ¬ cause.Foreign)
    (h : ∀ rest, r (t :: rest) = .error ⟨cause, index, some t⟩) (ts : List Token) :
    Stops policy r index ⟨cause, index, some t⟩ [] (t :: ts) where
  index_eq := rfl
  blames := .misplaced rfl hcause
  firm := by
    intro u us heq rest
    cases heq
    exact h rest

/-- A reader that takes one token stops where the reader of the others does. -/
theorem cons {r' : List Token → Except ReadFault β} {g : β → α} {t : Token} {e : ReadFault}
    {front back : List Token} (hr : ∀ ts, r (t :: ts) = (r' ts).map g)
    (h : Stops policy r' (index + 1) e front back) : Stops policy r index e (t :: front) back where
  index_eq := by
    rw [h.index_eq, List.length_cons]
    omega
  blames := h.blames
  firm := by
    intro u us hback rest
    rw [List.cons_append, hr, map_eq_error_iff]
    exact h.firm u us hback rest

end Stops

/-! ## What was read before -/

/-- The beginning of an item, in front of the token at which reading it stops. -/
inductive Begun : List Token → Prop
  | start : Begun []
  | field {f : Token} (field : f.kind = .bare) : Begun [f]
  | comparison {f o : Token} (field : f.kind = .bare) (operator : o.kind = .comparison) :
      Begun [f, o]
  | isIn {f i : Token} (field : f.kind = .bare) (isIn : i.kind = .isIn) : Begun [f, i]
  | list {f i p : Token} {elements : List Token} (field : f.kind = .bare) (isIn : i.kind = .isIn)
      (opening : p.kind = .opening) (list : ∀ t ∈ elements, InList t) :
      Begun (f :: i :: p :: elements)

/-- **The beginning of an item can be completed**, if its operator is known. -/
theorem exists_item_of_begun (policy : QuotePolicy) {front : List Token} (h : Begun front)
    (hne : front ≠ []) (hknown : Known front) : ∃ rest c, Item policy (front ++ rest) c := by
  -- tokens that any field goes on with: `eq`, a value, and a list without values
  let eq : Token := ⟨.comparison, "eq".toList, 0⟩
  let one : Token := ⟨.bare, "1".toList, 0⟩
  let opening : Token := ⟨.opening, ['('], 0⟩
  let closing : Token := ⟨.closing, [')'], 0⟩
  cases h with
  | start => exact absurd rfl hne
  | field hf => exact ⟨[eq, one], _, .comparison hf rfl rfl (by decide)⟩
  | @comparison f o hf ho => exact ⟨[one], _, .comparison hf ho rfl (hknown o (by simp) ho)⟩
  | isIn hf hi =>
    have hnone : ∀ t ∈ ([] : List Token), InList t := by simp
    exact ⟨[opening, closing], _, .membership hf hi (p := opening) (c := closing) rfl hnone rfl⟩
  | list hf hi hp hlist => exact ⟨[closing], _, .membership hf hi hp hlist (c := closing) rfl⟩

/-! ## Calls and lambdas -/

/-- A call fails to be a clause because it cannot be taken apart, or because of its name. -/
theorem fault_of_ofCall {index : Int} {t : Token} {e : ReadFault}
    (h : ofCall policy index t = .error e) :
    Call.ofToken index t = .error e ∨ ∃ call, Call.ofToken index t = .ok call ∧
      (Argument.ofText call.name).relation? = none ∧
        e = ⟨.unsupportedFunction call.name, index, some t⟩ := by
  simp only [ofCall, bind, Except.bind] at h
  split at h
  · rename_i hcall
    cases h
    exact Or.inl hcall
  · rename_i call hcall
    split at h
    · rename_i hnone
      cases h
      exact Or.inr ⟨call, hcall, Option.isNone_iff_eq_none.1 hnone, rfl⟩
    · cases h

/-- A lambda fails to be a clause only because it cannot be taken apart. -/
theorem ofToken_of_ofLambda {index : Int} {t : Token} {e : ReadFault}
    (h : ofLambda policy index t = .error e) : Lambda.ofToken policy index t = .error e := by
  simp only [ofLambda, bind, Except.bind] at h
  split at h
  · rename_i hlambda
    cases h
    exact hlambda
  · rename_i l hlambda
    obtain ⟨r, hr⟩ := Lambda.exists_relation_of_ofToken hlambda
    rw [hr, Relation.relation?_name] at h
    cases h

/-- A call or lambda fails at its own index. -/
theorem index_of_ofCall {index : Int} {t : Token} {e : ReadFault}
    (h : ofCall policy index t = .error e) : e.index = index := by
  rcases fault_of_ofCall h with hcall | ⟨call, -, -, rfl⟩
  · exact (Call.fault_of_ofToken hcall).1
  · rfl

theorem index_of_ofLambda {index : Int} {t : Token} {e : ReadFault}
    (h : ofLambda policy index t = .error e) : e.index = index :=
  Lambda.index_of_ofToken (ofToken_of_ofLambda h)

/-- **A scanned call can only lack a field or a value**, and is to blame itself. -/
theorem fault_of_scanned_call {index : Int} {t : Token} {e : ReadFault}
    (hshaped : Token.Shaped .call t.text) (h : ofCall policy index t = .error e) :
    e.culprit = some t ∧ ∃ name, e.cause = .incompleteCall name := by
  rcases fault_of_ofCall h with hcall | ⟨call, hcall, hnone, -⟩
  · exact ⟨(Call.fault_of_ofToken hcall).2.1, Call.incomplete_of_shaped hshaped hcall⟩
  · -- it has the name of a predicate, which is a relation
    obtain ⟨op, -, hname, -⟩ := Call.ofToken_of_shaped hshaped hcall
    rw [hname, show op.name = (Relation.call op).name from rfl, Relation.relation?_name] at hnone
    cases hnone

/-- **A lambda is to blame itself**, or the call that makes up its body is, for want of a field or a
    value. -/
theorem fault_of_lambda {index : Int} {t : Token} {e : ReadFault}
    (h : ofLambda policy index t = .error e) :
    (e.culprit = some t ∧ (e.cause = .malformedLambda ∨ e.cause = .notOneCondition ∨
      ∃ binder subject, e.cause = .otherSubject binder subject)) ∨
    ∃ call, Lambda.BodyCall policy t call ∧ e.culprit = some call ∧
      ∃ name, e.cause = .incompleteCall name := by
  rcases Lambda.fault_of_ofToken (ofToken_of_ofLambda h) with ⟨-, hself⟩ | ⟨call, hbody, hcall⟩
  · exact Or.inl hself
  · exact Or.inr ⟨call, hbody, (Call.fault_of_ofToken hcall).2.1,
      Call.incomplete_of_shaped hbody.shaped hcall⟩

/-! ## The readers of the grammar -/

/-- A list of values stops at its end or at a token that cannot stand in it. -/
theorem exists_stops_of_values {field : Text} {index : Nat} {ts : List Token} {e : ReadFault}
    (h : values policy field index ts = .error e) :
    ∃ front back, ts = front ++ back ∧ (∀ t ∈ front, InList t) ∧
      Stops policy (values policy field index) index e front back := by
  fun_induction values policy field index ts with
  | case1 index =>
    cases h
    exact ⟨[], [], rfl, by simp, .tooShort id⟩
  | case2 => cases h
  | case3 index t ts hk ih | case4 index t ts hk ih =>
    obtain ⟨front, back, rfl, hlist, hstops⟩ := ih (map_eq_error_iff.1 h)
    have hvalue : InList t := Or.inl (by rw [hk]; rfl)
    refine ⟨t :: front, back, rfl, ?_, hstops.cons fun ts => by rw [values, hk]⟩
    exact List.forall_mem_cons.2 ⟨hvalue, hlist⟩
  | case5 index t ts hk ih =>
    obtain ⟨front, back, rfl, hlist, hstops⟩ := ih h
    have hcomma : InList t := Or.inr hk
    have hskip : ∀ ts, values policy field index (t :: ts) =
        (values policy field (index + 1) ts).map id := by
      intro ts
      rw [values, hk]
      cases values policy field (index + 1) ts <;> rfl
    exact ⟨t :: front, back, rfl, List.forall_mem_cons.2 ⟨hcomma, hlist⟩, hstops.cons hskip⟩
  | case6 index t ts h₁ h₂ h₃ h₄ =>
    cases h
    refine ⟨[], t :: ts, rfl, by simp, .misplaced id (fun rest => ?_) ts⟩
    rw [values]
    split
    · rename_i hk
      exact absurd hk h₁
    · rename_i hk
      exact absurd hk h₂
    · rename_i hk
      exact absurd hk h₃
    · rename_i hk
      exact absurd hk h₄
    · rfl

/-- A membership stops for want of a list, or in its list. -/
theorem exists_stops_of_readMembership {f i : Token} (hf : f.kind = .bare) (hi : i.kind = .isIn)
    {index : Nat} {ts : List Token} {e : ReadFault}
    (h : readMembership policy f.text ⟨index, ts⟩ = .error e) :
    ∃ front back, ts = front ++ back ∧ Begun (f :: i :: front) ∧
      Stops policy (fun ts => readMembership policy f.text ⟨index, ts⟩) index e front back := by
  cases ts with
  | nil =>
    cases h
    exact ⟨[], [], rfl, .isIn hf hi, .tooShort id⟩
  | cons p ts =>
    by_cases hp : p.kind = .opening
    · have hread : ∀ ts, readMembership policy f.text ⟨index, p :: ts⟩ =
          (values policy f.text (index + 1) ts).map fun r =>
            (.membership f.text (.collection .list r.1), r.2) := by
        intro ts
        rw [readMembership, if_pos hp]
      rw [hread, map_eq_error_iff] at h
      obtain ⟨front, back, rfl, hlist, hstops⟩ := exists_stops_of_values h
      exact ⟨p :: front, back, rfl, .list hf hi hp hlist, hstops.cons hread⟩
    · have hread : ∀ ts, readMembership policy f.text ⟨index, p :: ts⟩ =
          .error ⟨.expectedList f.text, index, some p⟩ := by
        intro ts
        rw [readMembership, if_neg hp]
      rw [hread] at h
      cases h
      exact ⟨[], p :: ts, rfl, .isIn hf hi, .misplaced id hread ts⟩

/-- A comparison stops for want of a value. -/
theorem stops_of_readComparison {field operator : Text} {index : Nat} {ts : List Token}
    {e : ReadFault} (h : readComparison policy field operator ⟨index, ts⟩ = .error e) :
    Stops policy (fun ts => readComparison policy field operator ⟨index, ts⟩) index e [] ts := by
  cases ts with
  | nil =>
    cases h
    exact .tooShort id
  | cons v ts =>
    rw [readComparison] at h
    by_cases hv : v.kind.isValue = true
    · rw [if_pos hv] at h
      cases h
    · rw [if_neg hv] at h
      cases h
      refine .misplaced id (fun rest => ?_) ts
      rw [readComparison, if_neg hv]

/-- Behind a field, reading stops for want of an operator, or behind the operator. -/
theorem exists_stops_of_readCondition {f : Token} (hf : f.kind = .bare) {index : Nat}
    {ts : List Token} {e : ReadFault} (h : readCondition policy f.text ⟨index, ts⟩ = .error e) :
    ∃ front back, ts = front ++ back ∧ Begun (f :: front) ∧
      Stops policy (fun ts => readCondition policy f.text ⟨index, ts⟩) index e front back := by
  cases ts with
  | nil =>
    cases h
    exact ⟨[], [], rfl, .field hf, .tooShort id⟩
  | cons o ts =>
    by_cases hin : o.kind = .isIn
    · have hread : ∀ ts, readCondition policy f.text ⟨index, o :: ts⟩ =
          (readMembership policy f.text ⟨index + 1, ts⟩).map id := by
        intro ts
        rw [readCondition, hin]
        cases readMembership policy f.text ⟨index + 1, ts⟩ <;> rfl
      rw [hread, map_eq_error_iff] at h
      obtain ⟨front, back, rfl, hbegun, hstops⟩ := exists_stops_of_readMembership hf hin h
      exact ⟨o :: front, back, rfl, hbegun, hstops.cons hread⟩
    · by_cases hop : o.kind = .comparison
      · have hread : ∀ ts, readCondition policy f.text ⟨index, o :: ts⟩ =
            (readComparison policy f.text o.text ⟨index + 1, ts⟩).map id := by
          intro ts
          rw [readCondition, hop]
          cases readComparison policy f.text o.text ⟨index + 1, ts⟩ <;> rfl
        rw [hread, map_eq_error_iff] at h
        exact ⟨[o], ts, rfl, .comparison hf hop, (stops_of_readComparison h).cons hread⟩
      · have hread : ∀ ts, readCondition policy f.text ⟨index, o :: ts⟩ =
            .error ⟨.unsupportedOperator f.text, index, some o⟩ := by
          intro ts
          rw [readCondition]
          split
          · rename_i hk
            exact absurd hk hin
          · rename_i hk
            exact absurd hk hop
          · rfl
        rw [hread] at h
        cases h
        exact ⟨[], o :: ts, rfl, .field hf, .misplaced id hread ts⟩

/-- **Reading a clause stops behind the beginning of an item.** -/
theorem exists_stops_of_read {index : Nat} {ts : List Token} {e : ReadFault}
    (h : read policy ⟨index, ts⟩ = .error e) :
    ∃ front back, ts = front ++ back ∧ Begun front ∧
      Stops policy (fun ts => read policy ⟨index, ts⟩) index e front back := by
  cases ts with
  | nil => cases h
  | cons t ts =>
    -- a token that begins an item but is not a field is blamed itself
    have hhere : ∀ {e}, (∀ rest, read policy ⟨index, t :: rest⟩ = .error e) → e.index = index →
        Blames policy e (t :: ts) → ∃ front back, t :: ts = front ++ back ∧ Begun front ∧
          Stops policy (fun ts => read policy ⟨index, ts⟩) index e front back := by
      intro e hfirm hindex hblames
      refine ⟨[], t :: ts, rfl, .start, hindex, hblames, fun u us heq rest => ?_⟩
      cases heq
      exact hfirm rest
    cases hk : t.kind with
    | and | or | not | opening | closing => simp [read, hk] at h
    | isIn | comparison | comma | string =>
      have hread : ∀ rest, read policy ⟨index, t :: rest⟩ =
          .error ⟨.expectedField, index, some t⟩ := by
        intro rest
        rw [read, hk]
      rw [hread] at h
      cases h
      exact hhere hread rfl (.misplaced rfl id)
    | call =>
      have hread : ∀ rest, read policy ⟨index, t :: rest⟩ =
          (ofCall policy index t).map fun clause => some (clause, ⟨index + 1, rest⟩) := by
        intro rest
        rw [read, hk]
      rw [hread, map_eq_error_iff] at h
      have hindex := index_of_ofCall h
      refine hhere (fun rest => ?_) hindex (.call hk (by rw [hindex, h]))
      rw [hread, map_eq_error_iff, h]
    | lambda =>
      have hread : ∀ rest, read policy ⟨index, t :: rest⟩ =
          (ofLambda policy index t).map fun clause => some (clause, ⟨index + 1, rest⟩) := by
        intro rest
        rw [read, hk]
      rw [hread, map_eq_error_iff] at h
      have hindex := index_of_ofLambda h
      refine hhere (fun rest => ?_) hindex (.lambda hk (by rw [hindex, h]))
      rw [hread, map_eq_error_iff, h]
    | bare =>
      have hread : ∀ rest, read policy ⟨index, t :: rest⟩ =
          (readCondition policy t.text ⟨index + 1, rest⟩).map some := by
        intro rest
        rw [read, hk]
      rw [hread, map_eq_error_iff] at h
      obtain ⟨front, back, rfl, hbegun, hstops⟩ := exists_stops_of_readCondition hk h
      exact ⟨t :: front, back, rfl, hbegun, hstops.cons hread⟩

end Clause

end QueryFilter
