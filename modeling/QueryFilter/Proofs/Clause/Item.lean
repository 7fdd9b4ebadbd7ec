/-
  ITEMS — the grammar of clauses, apart from the program that reads them.

  1. **Specification** — `Item policy tokens clause`: these tokens are one item of the grammar, and
     it means this clause.  The tokens may be any, not only those of a scan.
  2. **Writing** — the clause of an item can always be written (`exists_render_item`): its operator
     is known, and what a token stands for has a text.
  3. **Program = specification** — the reader takes an item off the front of a row, whatever follows
     (`read_item`), and what it takes is an item, or a comparison with an unknown operator, which
     cannot be written (`item_or_unknown_of_read`).
-/
import QueryFilter.Clause.OfTokens
import QueryFilter.Proofs.Literal.ReadWrite
import QueryFilter.Proofs.Token.Lambda

namespace QueryFilter

/-! ## Relations by their names -/

/-- A relation is found under its own name. -/
@[simp] theorem Relation.relation?_name (r : Relation) :
    (Argument.ofText r.name).relation? = some r := by
  show (Operator.ofName? r.name).bind Operator.relation? = some r
  rw [show r.name = (Operator.test r).name from rfl, Operator.ofName?_name]
  rfl

namespace Clause

open Token (Row)

variable {policy : QuotePolicy}

/-! ## The grammar -/

/-- What may stand in the list of a membership: a value or a comma. -/
def InList (t : Token) : Prop := t.kind.isValue = true ∨ t.kind = .comma

/-- The values of a list; the commas are left out. -/
def listed (policy : QuotePolicy) (elements : List Token) : List Argument :=
  (elements.filter fun t => t.kind.isValue).map fun t => value policy t.text

theorem listed_cons_of_value {t : Token} (h : t.kind.isValue = true) (ts : List Token) :
    listed policy (t :: ts) = value policy t.text :: listed policy ts := by
  simp [listed, h]

theorem listed_cons_of_comma {t : Token} (h : t.kind = .comma) (ts : List Token) :
    listed policy (t :: ts) = listed policy ts := by
  simp [listed, h, Token.Kind.isValue]

/-- One item of the grammar, and the clause that it means. -/
inductive Item (policy : QuotePolicy) : List Token → Clause → Prop
  | and {t : Token} (kind : t.kind = .and) : Item policy [t] .and
  | or {t : Token} (kind : t.kind = .or) : Item policy [t] .or
  | not {t : Token} (kind : t.kind = .not) : Item policy [t] .not
  | opening {t : Token} (kind : t.kind = .opening) : Item policy [t] .opening
  | closing {t : Token} (kind : t.kind = .closing) : Item policy [t] .closing
  /-- A call that can be taken apart and names a relation. -/
  | call {t : Token} {call : Call} (kind : t.kind = .call)
      (parts : ∀ index, Call.ofToken index t = .ok call)
      (known : (Argument.ofText call.name).relation?.isSome = true) :
      Item policy [t] (.condition (.ofText call.name) call.field (value policy call.value))
  /-- A lambda that can be taken apart. -/
  | lambda {t : Token} {l : Lambda} (kind : t.kind = .lambda)
      (parts : ∀ index, Lambda.ofToken policy index t = .ok l) :
      Item policy [t] (.any l.field (.options (.named l.operator) (value policy l.value)))
  /-- A bare word, the word of a relation, and a value. -/
  | comparison {f o v : Token} (field : f.kind = .bare) (operator : o.kind = .comparison)
      (operand : v.kind.isValue = true)
      (known : (Argument.ofText o.text).relation?.isSome = true) :
      Item policy [f, o, v] (.condition (.ofText o.text) f.text (value policy v.text))
  /-- A bare word, the word `in`, and a list in parentheses. -/
  | membership {f i p c : Token} {elements : List Token} (field : f.kind = .bare)
      (isIn : i.kind = .isIn) (opening : p.kind = .opening) (list : ∀ t ∈ elements, InList t)
      (closing : c.kind = .closing) :
      Item policy (f :: i :: p :: (elements ++ [c]))
        (.membership f.text (.collection .list (listed policy elements)))

/-! ## The clause of an item can be written -/

/-- What a token stands for can be written. -/
theorem exists_write_value (policy : QuotePolicy) (token : Text) :
    ∃ w, (Literal.read policy token).write = .ok w ∧ (value policy token).write = .ok w := by
  obtain ⟨w, hw⟩ := Literal.exists_write_read policy token
  exact ⟨w, hw, Argument.write_literal hw⟩

/-- Some texts of the values of a list. -/
theorem exists_write_listed (policy : QuotePolicy) (elements : List Token) :
    ∃ ws, (listed policy elements).mapM Argument.write = .ok ws := by
  unfold listed
  induction elements.filter fun t => t.kind.isValue with
  | nil => exact ⟨[], rfl⟩
  | cons t ts ih =>
    obtain ⟨w, -, hw⟩ := exists_write_value policy t.text
    obtain ⟨ws, hws⟩ := ih
    refine ⟨w :: ws, ?_⟩
    rw [List.map_cons, List.mapM_cons, hw, hws]
    rfl

/-- The text of a condition whose operator is the name of a relation. -/
theorem render_condition {name : Text} {r : Relation}
    (hname : (Argument.ofText name).relation? = some r) (field : Text) (a : Argument) :
    render (.condition (.ofText name) field a) = a.write.map (relationText r field) := by
  show renderCondition _ _ _ = _
  rw [renderCondition, hname]
  rfl

/-- The text of an `any` clause whose operator is the name of a relation. -/
theorem render_any (r : Relation) (field : Text) (a : Argument) :
    render (.any field (.options (.named r.name) a)) =
      (a.write.map (relationText r binder)).map (anyText field) := by
  show renderAny _ _ = _
  have hcondition : renderCondition (Argument.ofOperatorName (.named r.name)) binder a =
      a.write.map (relationText r binder) := render_condition r.relation?_name binder a
  show (renderCondition (Argument.ofOperatorName (.named r.name)) binder a).bind _ = _
  rw [hcondition]
  cases a.write <;> rfl

/-- **The clause of an item has a text.** -/
theorem exists_render_item {tokens : List Token} {c : Clause} (h : Item policy tokens c) :
    ∃ part, c.render = .ok part := by
  cases h with
  | and kind => exact ⟨_, rfl⟩
  | or kind => exact ⟨_, rfl⟩
  | not kind => exact ⟨_, rfl⟩
  | opening kind => exact ⟨_, rfl⟩
  | closing kind => exact ⟨_, rfl⟩
  | @call t call kind parts known =>
    obtain ⟨r, hr⟩ := Option.isSome_iff_exists.1 known
    obtain ⟨w, -, hw⟩ := exists_write_value policy call.value
    exact ⟨_, by rw [render_condition hr, hw]; rfl⟩
  | @lambda t l kind parts =>
    obtain ⟨r, hr⟩ := Lambda.exists_relation_of_ofToken (parts 0)
    obtain ⟨w, -, hw⟩ := exists_write_value policy l.value
    exact ⟨_, by rw [hr, render_any, hw]; rfl⟩
  | @comparison f o v field operator operand known =>
    obtain ⟨r, hr⟩ := Option.isSome_iff_exists.1 known
    obtain ⟨w, -, hw⟩ := exists_write_value policy v.text
    exact ⟨_, by rw [render_condition hr, hw]; rfl⟩
  | @membership f i p c elements field isIn opening list closing =>
    obtain ⟨ws, hws⟩ := exists_write_listed policy elements
    refine ⟨membershipText f.text ws, ?_⟩
    show ((listed policy elements).mapM Argument.write).map _ = _
    rw [hws]
    rfl

/-! ## The reader takes items -/

/-- The values of a list up to the parenthesis that closes it. -/
theorem values_append (field : Text) {elements : List Token} (hlist : ∀ t ∈ elements, InList t)
    {c : Token} (hc : c.kind = .closing) (index : Nat) (rest : List Token) :
    values policy field index (elements ++ c :: rest) =
      .ok (listed policy elements, ⟨index + elements.length + 1, rest⟩) := by
  -- the reader counts the tokens that it passes, so the index differs at each step
  induction elements generalizing index with
  | nil =>
    show values policy field index (c :: rest) = _
    rw [values, hc]
    rfl
  | cons t ts ih =>
    have hrest := ih (fun t' ht' => hlist t' (List.mem_cons_of_mem _ ht')) (index + 1)
    have hlen : index + 1 + ts.length + 1 = index + (t :: ts).length + 1 := by
      rw [List.length_cons]
      omega
    rw [hlen] at hrest
    rw [List.cons_append, values]
    rcases hlist t (List.mem_cons_self ..) with hvalue | hcomma
    · rw [listed_cons_of_value hvalue]
      cases hk : t.kind with
      | string | bare => simp [hrest, Except.map]
      | and | or | not | isIn | comparison | opening | closing | comma | call | lambda =>
        rw [hk] at hvalue
        cases hvalue
    · rw [listed_cons_of_comma hcomma, hcomma]
      exact hrest

/-- **An item is read off the front of a row, whatever follows it.** -/
theorem read_item {tokens : List Token} {c : Clause} (h : Item policy tokens c) (index : Nat)
    (rest : List Token) :
    read policy ⟨index, tokens ++ rest⟩ = .ok (some (c, ⟨index + tokens.length, rest⟩)) := by
  cases h with
  | and kind | or kind | not kind | opening kind | closing kind =>
    simp [read, kind]
  | @call t call kind parts known =>
    have hcall : ofCall policy index t =
        .ok (.condition (.ofText call.name) call.field (value policy call.value)) := by
      simp only [ofCall, parts, bind, Except.bind]
      rw [if_neg]
      intro hnone
      rw [Option.isNone_iff_eq_none] at hnone
      rw [hnone] at known
      cases known
    simp [read, kind, hcall, Except.map]
  | @lambda t l kind parts =>
    obtain ⟨r, hr⟩ := Lambda.exists_relation_of_ofToken (parts 0)
    have hlambda : ofLambda policy index t =
        .ok (.any l.field (.options (.named l.operator) (value policy l.value))) := by
      simp only [ofLambda, parts, bind, Except.bind, hr, Relation.relation?_name]
      rfl
    simp [read, kind, hlambda, Except.map]
  | @comparison f o v field operator operand known =>
    simp [read, field, readCondition, operator, readComparison, operand, Except.map]
  | @membership f i p c elements field isIn opening list closing =>
    have hvalues : values policy f.text (index + 1 + 1 + 1) (elements ++ c :: rest) =
        .ok (listed policy elements, ⟨index + 1 + 1 + 1 + elements.length + 1, rest⟩) :=
      values_append f.text list closing _ rest
    have hrow : read policy ⟨index, f :: i :: p :: (elements ++ c :: rest)⟩ =
        (values policy f.text (index + 1 + 1 + 1) (elements ++ c :: rest)).map fun x =>
          some (.membership f.text (.collection .list x.1), x.2) := by
      simp only [read, field, readCondition, isIn, readMembership, opening, if_true]
      cases values policy f.text (index + 1 + 1 + 1) (elements ++ c :: rest) <;> rfl
    have hlen : index + 1 + 1 + 1 + elements.length + 1 =
        index + (f :: i :: p :: (elements ++ [c])).length := by
      simp only [List.length_cons, List.length_append, List.length_nil]
      omega
    rw [List.cons_append, List.cons_append, List.cons_append, List.append_assoc,
      List.singleton_append, hrow, hvalues, hlen]
    rfl

/-! ## What the reader takes is an item -/

/-- A list that can be read is closed, and holds values and commas only. -/
theorem list_of_values {field : Text} {index : Nat} {tokens : List Token} {vs : List Argument}
    {row : Row} (h : values policy field index tokens = .ok (vs, row)) :
    ∃ elements c, (∀ t ∈ elements, InList t) ∧ c.kind = .closing ∧
      tokens = elements ++ c :: row.tokens ∧ vs = listed policy elements := by
  fun_induction values policy field index tokens generalizing vs with
  | case1 => cases h
  | case2 index t ts hk =>
    cases h
    exact ⟨[], t, by simp, hk, rfl, rfl⟩
  | case3 index t ts hk ih | case4 index t ts hk ih =>
    obtain ⟨⟨vs', row'⟩, hv, heq⟩ := map_eq_ok_iff.1 h
    cases heq
    obtain ⟨elements, c, hlist, hc, rfl, rfl⟩ := ih hv
    have hvalue : t.kind.isValue = true := by
      rw [hk]
      rfl
    refine ⟨t :: elements, c, ?_, hc, rfl, ?_⟩
    · intro t' ht'
      rcases List.mem_cons.1 ht' with rfl | ht'
      · exact Or.inl hvalue
      · exact hlist t' ht'
    · rw [listed_cons_of_value hvalue]
  | case5 index t ts hk ih =>
    obtain ⟨elements, c, hlist, hc, rfl, rfl⟩ := ih h
    refine ⟨t :: elements, c, ?_, hc, rfl, ?_⟩
    · intro t' ht'
      rcases List.mem_cons.1 ht' with rfl | ht'
      · exact Or.inr hk
      · exact hlist t' ht'
    · rw [listed_cons_of_comma hk]
  | case6 => cases h

/-- Every comparison among the tokens has the name of a relation. -/
def Known (tokens : List Token) : Prop :=
  ∀ t ∈ tokens, t.kind = .comparison → (Argument.ofText t.text).relation?.isSome = true

/-- The clause is a comparison, with the word of one of these tokens for an operator that is no
    relation.  Such a comparison is read, but cannot be written. -/
def Unknown (tokens : List Token) (c : Clause) : Prop :=
  ∃ o ∈ tokens, o.kind = .comparison ∧ (Argument.ofText o.text).relation? = none ∧
    ∃ field operand, c = .condition (.ofText o.text) field operand

theorem render_unknown {tokens : List Token} {c : Clause} (h : Unknown tokens c) (part : Text) :
    c.render ≠ .ok part := by
  obtain ⟨o, -, -, hnone, field, operand, rfl⟩ := h
  show renderCondition _ _ _ ≠ _
  rw [renderCondition, hnone]
  intro heq
  cases heq

/-- What is read behind a field makes an item with it, or is a comparison with an unknown
    operator. -/
theorem item_or_unknown_of_readCondition {f : Token} (hf : f.kind = .bare) {row row' : Row}
    {c : Clause} (h : readCondition policy f.text row = .ok (c, row')) :
    (∃ tokens, Item policy (f :: tokens) c ∧ row.tokens = tokens ++ row'.tokens) ∨
      Unknown row.tokens c := by
  unfold readCondition at h
  split at h
  · cases h
  · rename_i index o ts
    split at h
    · rename_i hk
      left
      unfold readMembership at h
      split at h
      · cases h
      · rename_i index' p ts' heq
        cases heq
        split at h
        · rename_i hp
          obtain ⟨⟨vs, row''⟩, hv, heq⟩ := map_eq_ok_iff.1 h
          cases heq
          obtain ⟨elements, c, hlist, hc, rfl, rfl⟩ := list_of_values hv
          exact ⟨o :: p :: (elements ++ [c]), .membership hf hk hp hlist hc, by simp⟩
        · cases h
    · rename_i hk
      unfold readComparison at h
      split at h
      · cases h
      · rename_i index' v ts' heq
        cases heq
        split at h
        · rename_i hv
          cases h
          cases hr : (Argument.ofText o.text).relation? with
          | some r =>
            have hknown : (Argument.ofText o.text).relation?.isSome = true := by
              rw [hr]
              rfl
            exact Or.inl ⟨[o, v], .comparison hf hk hv hknown, rfl⟩
          | none => exact Or.inr ⟨o, List.mem_cons_self .., hk, hr, _, _, rfl⟩
        · cases h
    · cases h

/-- **What is read is an item**, or a comparison with an unknown operator. -/
theorem item_or_unknown_of_read {row row' : Row} {c : Clause}
    (h : read policy row = .ok (some (c, row'))) :
    (∃ tokens, Item policy tokens c ∧ row.tokens = tokens ++ row'.tokens) ∨
    Unknown row.tokens c := by
  unfold read at h
  split at h
  · cases h
  · rename_i index t ts
    simp only at h
    split at h
    case h_1 hk => cases h; exact Or.inl ⟨[t], .and hk, rfl⟩
    case h_2 hk => cases h; exact Or.inl ⟨[t], .or hk, rfl⟩
    case h_3 hk => cases h; exact Or.inl ⟨[t], .not hk, rfl⟩
    case h_4 hk => cases h; exact Or.inl ⟨[t], .opening hk, rfl⟩
    case h_5 hk => cases h; exact Or.inl ⟨[t], .closing hk, rfl⟩
    case h_6 hk =>
      obtain ⟨c', hc, heq⟩ := map_eq_ok_iff.1 h
      cases heq
      refine Or.inl ⟨[t], ?_, rfl⟩
      simp only [ofCall, bind, Except.bind] at hc
      split at hc
      · cases hc
      · rename_i call hcall
        split at hc
        · cases hc
        · rename_i hknown
          cases hc
          refine .call hk (fun i => ?_) ?_
          · exact Call.ofToken_eq_ok_iff.2 (Call.ofToken_eq_ok_iff.1 hcall)
          · cases hr : (Argument.ofText call.name).relation? with
            | some r => rfl
            | none =>
              rw [hr] at hknown
              exact absurd rfl hknown
    case h_7 hk =>
      obtain ⟨c', hc, heq⟩ := map_eq_ok_iff.1 h
      cases heq
      refine Or.inl ⟨[t], ?_, rfl⟩
      simp only [ofLambda, bind, Except.bind] at hc
      split at hc
      · cases hc
      · rename_i l hl
        split at hc
        · cases hc
        · cases hc
          exact .lambda hk fun i => Lambda.ofToken_any_index i hl
    case h_8 hk =>
      obtain ⟨⟨c', r⟩, hr, heq⟩ := map_eq_ok_iff.1 h
      cases heq
      rcases item_or_unknown_of_readCondition hk hr with ⟨tokens, hitem, hrow⟩ | ⟨o, ho, hunknown⟩
      · exact Or.inl ⟨t :: tokens, hitem, by rw [List.cons_append, ← hrow]⟩
      · exact Or.inr ⟨o, List.mem_cons_of_mem _ ho, hunknown⟩
    all_goals cases h

/-- **What is read and can be written is an item.** -/
theorem item_of_read {row row' : Row} {c : Clause} {part : Text}
    (h : read policy row = .ok (some (c, row'))) (hpart : c.render = .ok part) :
    ∃ tokens, Item policy tokens c ∧ row.tokens = tokens ++ row'.tokens := by
  rcases item_or_unknown_of_read h with hitem | hunknown
  · exact hitem
  · exact absurd hpart (render_unknown hunknown part)

/-- What is read from tokens whose comparisons are known can be written. -/
theorem exists_render_of_read {row row' : Row} {c : Clause}
    (h : read policy row = .ok (some (c, row'))) (hknown : Known row.tokens) :
    ∃ part, c.render = .ok part := by
  rcases item_or_unknown_of_read h with ⟨tokens, hitem, -⟩ | ⟨o, ho, hk, hnone, -⟩
  · exact exists_render_item hitem
  · have hsome := hknown o ho hk
    rw [hnone] at hsome
    cases hsome

/-- Only the end of a row has no clause. -/
theorem tokens_eq_nil_of_read {row : Row} (h : read policy row = .ok none) : row.tokens = [] := by
  unfold read at h
  split at h
  · rfl
  · simp only at h
    split at h
    case h_6 | h_7 | h_8 =>
      obtain ⟨_, -, heq⟩ := map_eq_ok_iff.1 h
      cases heq
    all_goals cases h

end Clause

end QueryFilter
