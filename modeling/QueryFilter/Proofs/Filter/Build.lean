/-
  BUILT FILTERS — what was built from plain fields and values is read back as it is.

  1. **Specification** — `Clause.Plain`: any clause, in any order and with groups balanced or not,
     that has a plain name as its field, names a relation where it names one, and holds plain
     values; the first value of a membership is no text with `/any(` in it.
  2. **One clause** — a plain clause is written as a settled part (`Clause.Plain.exists_settled`).
  3. **All clauses** — so the whole filter is built, and its text is read back as it
     (`ofText_build`).
-/
import QueryFilter.Proofs.Argument.Plain
import QueryFilter.Proofs.Filter.Replay
import QueryFilter.Proofs.Token.QuotedHead

namespace QueryFilter

open Token (PlainWord PlainName Operand)

/-! ## Plain clauses -/

/-- A clause of plain fields and plain values. -/
inductive Clause.Plain : Clause → Prop
  | and : Plain .and
  | or : Plain .or
  | not : Plain .not
  | opening : Plain .opening
  | closing : Plain .closing
  | relation {r : Relation} {field : Text} {a : Argument} (name : PlainName field)
      (value : a.Plain) : Plain (.relation r field a)
  | condition {operator : Argument} {field : Text} {a : Argument} (name : PlainName field)
      (known : operator.relation?.isSome = true) (value : a.Plain) :
      Plain (.condition operator field a)
  /-- The values may be any sequence, an empty one included. -/
  | membership {field : Text} {a : Argument} {elements : List Argument} (name : PlainName field)
      (sequence : a.elements? = some elements) (values : ∀ e ∈ elements, e.Plain)
      (first : ∀ s, elements.head?.bind Argument.text? = some s → ¬ "/any(".toList <:+: s) :
      Plain (.membership field a)
  /-- The options may be options, or a mapping that holds them. -/
  | any {field : Text} {options : Argument} {operator : OperatorName} {a : Argument}
      (name : PlainName field) (read : Clause.anyOptions options = .ok ⟨operator, a⟩)
      (known : (Argument.ofOperatorName operator).relation?.isSome = true) (value : a.Plain) :
      Plain (.any field options)

/-! ## Calls of words and operands -/

/-- A word and an operand make the arguments of a call. -/
theorem Call.writable_of_operand {field v : Text} (hfield : PlainWord field) (hv : Operand v) :
    Call.Writable field v where
  field_stripped := hfield.stripped
  field_ne_nil := hfield.ne_nil
  no_comma := fun hmem => (Token.inWord_iff.1 (hfield.inWord _ hmem)).2.2.2 rfl
  value_stripped := hv.stripped
  value_ne_nil := hv.ne_nil
  balanced := hfield.balanced.append ((show Token.Balanced ", ".toList from rfl).append hv.balanced)

namespace Clause

/-! ## Plain clauses are settled -/

theorem settled_relation (r : Relation) {field v : Text} (hname : PlainName field) (hv : Operand v)
    (hcanonical : Literal.Canonical v) (hcall : Predicate.ofName? v = none) :
    Settled (relationText r field v) := by
  cases r with
  | compare op =>
    exact .comparison op hname.toPlainWord hname.notKeyword hv hcanonical hcall
  | call op => exact .call op (Call.writable_of_operand hname.toPlainWord hv) hcanonical

theorem settled_any (r : Relation) {field v : Text} (hname : PlainName field) (hv : Operand v)
    (hcanonical : Literal.Canonical v) : Settled (anyText field (relationText r binder v)) := by
  cases r with
  | compare op => exact .anyComparison op hname.ne_nil hname.inWord hv hcanonical
  | call op =>
    exact .anyCall op hname.ne_nil hname.inWord
      (Call.writable_of_operand Lambda.variableName_binder.plainName.toPlainWord hv)
      hcanonical

/-- The texts of plain values, and where the first one comes from. -/
theorem exists_write_elements {elements : List Argument} (h : ∀ e ∈ elements, e.Plain) :
    ∃ vs, elements.mapM Argument.write = .ok vs ∧ (∀ v ∈ vs, Operand v) ∧
      (∀ v ∈ vs, Literal.Canonical v) ∧
      ∀ s, vs.head? = some (Literal.quote s) → elements.head?.bind Argument.text? = some s := by
  induction elements with
  | nil => exact ⟨[], rfl, by simp, by simp, by simp⟩
  | cons e es ih =>
    obtain ⟨vs, hvs, hoperands, hcanonical, -⟩ := ih fun e' he' => h e' (List.mem_cons_of_mem _ he')
    have he := h e (List.mem_cons_self ..)
    obtain ⟨v, hv, hoperand, hstable, -⟩ := he.exists_write
    refine ⟨v :: vs, ?_, ?_, ?_, ?_⟩
    · rw [List.mapM_cons, hv, hvs]
      rfl
    · intro w hw
      rcases List.mem_cons.1 hw with rfl | hw
      · exact hoperand
      · exact hoperands w hw
    · intro w hw
      rcases List.mem_cons.1 hw with rfl | hw
      · exact hstable
      · exact hcanonical w hw
    · intro s hs
      have hquote : v = Literal.quote s := Option.some.inj hs
      rcases he.write_cases with ⟨s', htext, hw⟩ | ⟨w, hw, hplain⟩
      · rw [hv, Except.ok.injEq, hquote] at hw
        rw [Literal.quote_injective hw]
        exact htext
      · exfalso
        rw [hv, Except.ok.injEq, hquote] at hw
        have hmem : '\'' ∈ w := by
          rw [← hw]
          exact List.mem_cons_self ..
        exact (hplain.quoteFree _ hmem).1 rfl

/-- **A plain clause is written, and as a settled part.** -/
theorem Plain.exists_settled {c : Clause} (h : c.Plain) :
    ∃ part, c.render = .ok part ∧ Settled part := by
  cases h with
  | and => exact ⟨_, rfl, .and⟩
  | or => exact ⟨_, rfl, .or⟩
  | not => exact ⟨_, rfl, .not⟩
  | opening => exact ⟨_, rfl, .opening⟩
  | closing => exact ⟨_, rfl, .closing⟩
  | @relation r field a name value =>
    obtain ⟨v, hv, hoperand, hcanonical, hcall⟩ := value.exists_write
    refine ⟨_, ?_, settled_relation r name hoperand hcanonical hcall⟩
    show a.write.map (relationText r field) = _
    rw [hv]
    rfl
  | @condition operator field a name known value =>
    obtain ⟨r, hr⟩ := Option.isSome_iff_exists.1 known
    obtain ⟨v, hv, hoperand, hcanonical, hcall⟩ := value.exists_write
    refine ⟨_, ?_, settled_relation r name hoperand hcanonical hcall⟩
    show renderCondition operator field a = _
    rw [renderCondition, hr]
    show a.write.map (relationText r field) = _
    rw [hv]
    rfl
  | @membership field a elements name sequence values first =>
    obtain ⟨vs, hvs, hoperands, hcanonical, hhead⟩ := exists_write_elements values
    refine ⟨membershipText field vs, ?_, ?_⟩
    · show renderMembership field a = _
      rw [renderMembership, sequence]
      show (elements.mapM Argument.write).map _ = _
      rw [hvs]
      rfl
    · refine .membership name.toPlainWord name.notKeyword hoperands hcanonical fun r => ?_
      exact Token.lambda?_list_eq_none hoperands (fun s hs => first s (hhead s hs)) r
  | @any field options operator a name read known value =>
    obtain ⟨r, hr⟩ := Option.isSome_iff_exists.1 known
    obtain ⟨v, hv, hoperand, hcanonical, -⟩ := value.exists_write
    refine ⟨_, ?_, settled_any r name hoperand hcanonical⟩
    have hcondition : renderCondition (Argument.ofOperatorName operator) binder a =
        .ok (relationText r binder v) := by
      rw [renderCondition, hr]
      show a.write.map (relationText r binder) = _
      rw [hv]
      rfl
    show renderAny field options = _
    simp only [renderAny, read, bind, Except.bind, hcondition]
    rfl

end Clause

/-! ## Whole filters -/

namespace Filter

/-- The filter after a row of calls, each of which appends a clause. -/
def build (calls : List Clause) : Except Fault Filter := calls.foldlM add empty

/-- Calls whose clauses can be written append their texts in order. -/
theorem foldlM_add {calls : List Clause} {parts : List Text}
    (h : calls.map Clause.render = parts.map .ok) (f : Filter) :
    calls.foldlM add f = .ok ⟨f.parts ++ parts⟩ := by
  induction calls generalizing parts f with
  | nil =>
    cases parts with
    | nil =>
      rw [List.append_nil]
      rfl
    | cons part parts => cases h
  | cons c calls ih =>
    cases parts with
    | nil => cases h
    | cons part parts =>
      rw [List.map_cons, List.map_cons, List.cons.injEq] at h
      have hadd : f.add c = .ok (f.push part) := by
        rw [add, h.1]
        rfl
      rw [List.foldlM_cons, hadd]
      show calls.foldlM add (f.push part) = _
      rw [ih h.2]
      simp [push]

/-- Plain calls have texts, all of them settled. -/
theorem exists_settled_parts {calls : List Clause} (h : ∀ c ∈ calls, c.Plain) :
    ∃ parts : List Text, calls.map Clause.render = parts.map .ok ∧
      ∀ part ∈ parts, Clause.Settled part := by
  induction calls with
  | nil => exact ⟨[], rfl, by simp⟩
  | cons c calls ih =>
    obtain ⟨part, hpart, hsettled⟩ := (h c (List.mem_cons_self ..)).exists_settled
    obtain ⟨parts, hparts, hall⟩ := ih fun c' hc' => h c' (List.mem_cons_of_mem _ hc')
    refine ⟨part :: parts, by rw [List.map_cons, List.map_cons, hpart, hparts], ?_⟩
    intro p hp
    rcases List.mem_cons.1 hp with rfl | hp
    · exact hsettled
    · exact hall p hp

/-- **A filter of plain clauses is built, holds each of them, and is read back from its text.** -/
theorem ofText_build {calls : List Clause} (h : ∀ c ∈ calls, c.Plain) :
    ∃ f, build calls = .ok f ∧ calls.map Clause.render = f.parts.map .ok ∧
      ofText .doubled f.text = .ok f := by
  obtain ⟨parts, hrender, hsettled⟩ := exists_settled_parts h
  have hbuild := foldlM_add hrender empty
  exact ⟨⟨[] ++ parts⟩, hbuild, hrender, ofText_text hsettled⟩

/-- An open group, a list with quotes, parentheses and keywords inside a text, and a lambda right
    behind it. -/
def sampleCalls : List Clause :=
  [.opening,
    .membership "f".toList (.collection .list [.ofText "') or (x".toList, .literal (.int (-7))]),
    .any "tags".toList (.options (.named "contains".toList) (.ofText "/any(".toList))]

theorem ofText_build_sampleCalls :
    (∀ c ∈ sampleCalls, c.Plain) ∧
    ∃ f, build sampleCalls = .ok f ∧ sampleCalls.map Clause.render = f.parts.map .ok ∧
      ofText .doubled f.text = .ok f := by
  have hf : PlainName "f".toList := ⟨Token.plainWord_of_all (by decide) (by decide), by decide⟩
  have htags : PlainName "tags".toList :=
    ⟨Token.plainWord_of_all (by decide) (by decide), by decide⟩
  have hplain : ∀ c ∈ sampleCalls, c.Plain := by
    intro c hc
    simp only [sampleCalls, List.mem_cons, List.not_mem_nil, or_false] at hc
    rcases hc with h | h | h
    · rw [h]
      exact .opening
    · rw [h]
      refine .membership hf rfl ?_ ?_
      · intro e he
        rcases List.mem_cons.1 he with he | he
        · rw [he]
          exact .text _
        · rw [List.mem_singleton.1 he]
          exact .int (by decide +kernel)
      · intro s hs
        rw [← Option.some.inj (show some "') or (x".toList = some s from hs)]
        decide +kernel
    · rw [h]
      exact .any htags rfl (by decide) (.text _)
  exact ⟨hplain, ofText_build hplain⟩

end Filter

end QueryFilter
