/-
  ONE CLAUSE, MANY SPELLINGS — all texts of a lambda are read as the same filter.

  1. **One item** — a spelling is one token, and that token is one item with the clause that the
     spelling says (`ofText_of_spelling`), whatever stands between its quotes.
  2. **Options** — the clause of a lambda is written like an `any` clause whose options are a
     mapping with the operator, by its name or as itself, and the value (`render_any_mapping`).

  All together: `ofText_spelling`.
-/
import QueryFilter.Proofs.Filter.Replay

namespace QueryFilter

open Lambda (Spelling CollectionField VariableName Admits)

/-! ## One item -/

namespace Filter

/-- **A spelling of a lambda is read as one part**, the text that is written for the lambda. -/
theorem ofText_of_spelling {text field v w : Text} {r : Relation} (hfield : CollectionField field)
    (hv : VariableName v) (hw : Admits r w) (hcanonical : Literal.Canonical w)
    (h : Spelling field v w r text) :
    ofText .doubled text =
      .ok ⟨[Clause.anyText field (Clause.relationText r Clause.binder w)]⟩ := by
  have hmeans := Clause.means_of_spelling hfield.ne_nil hfield.inWord hv hw h
  have hreading := (Reading.nil).cons hmeans (Clause.render_any_relation r hcanonical field)
  exact ofTokens_eq_ok_iff.2 (exists_decomposes hreading
    (Lambda.map_piece_tokenize_of_spelling hfield hv hw.balanced h))

end Filter

/-! ## Options -/

namespace Clause

/-- The options of an `any` clause as a mapping. -/
def anyMapping (operator value : Argument) : Argument :=
  .mapping false [(.ofText AnyOptions.operatorKey, operator), (.ofText AnyOptions.valueKey, value)]

/-- Such a mapping holds the options, if its operator is one. -/
theorem anyOptions_anyMapping {operator value : Argument} {name : OperatorName}
    (h : AnyOptions.operatorName operator = .ok name) :
    anyOptions (anyMapping operator value) = .ok ⟨name, value⟩ := by
  have hoperator : AnyOptions.lookup? AnyOptions.operatorKey
      [(.ofText AnyOptions.operatorKey, operator), (.ofText AnyOptions.valueKey, value)] =
        some operator := rfl
  have hvalue : AnyOptions.lookup? AnyOptions.valueKey
      [(.ofText AnyOptions.operatorKey, operator), (.ofText AnyOptions.valueKey, value)] =
        some value := rfl
  have hkeys : AnyOptions.keyProblem? (.ofText AnyOptions.operatorKey) = none ∧
      AnyOptions.keyProblem? (.ofText AnyOptions.valueKey) = none := by decide
  rw [anyMapping, anyOptions, AnyOptions.ofEntries]
  simp [AnyOptions.problems, AnyOptions.operatorProblem?, AnyOptions.valueProblem?, hoperator,
    hvalue, hkeys, h, Except.mapError]

/-- **The clause of a mapping** is written from the relation that its operator names, by
    its name or as itself. -/
theorem render_any_mapping (r : Relation) (field s : Text) {operator : Argument}
    (h : operator ∈ [Argument.ofText r.name, .operator (.test r)]) :
    render (.any field (anyMapping operator (.ofText s))) =
      .ok (anyText field (relationText r binder (Literal.quote s))) := by
  have hmapping : ∀ name, AnyOptions.operatorName operator = .ok name →
      (Argument.ofOperatorName name).relation? = some r →
      render (.any field (anyMapping operator (.ofText s))) =
        .ok (anyText field (relationText r binder (Literal.quote s))) := by
    intro name hname hrelation
    show renderAny field (anyMapping operator (.ofText s)) = _
    rw [renderAny, anyOptions_anyMapping hname]
    show (renderCondition (Argument.ofOperatorName name) binder (.ofText s)).bind _ = _
    rw [renderCondition, hrelation]
    rfl
  simp only [List.mem_cons, List.not_mem_nil, or_false] at h
  rcases h with rfl | rfl
  · exact hmapping (.named r.name) rfl r.relation?_name
  · exact hmapping (.member (.test r)) rfl rfl

end Clause

/-! ## All together -/

namespace Filter

/-- **All spellings of a lambda mean the same clause.**  For any field, any name of the variable,
    any relation and any text as its value, every spelling is read as one part, the one that is
    written for an `any` clause with the relation and the text as its options. -/
theorem ofText_spelling {text field v s : Text} {r : Relation} (hfield : CollectionField field)
    (hv : VariableName v) (h : Spelling field v (Literal.quote s) r text) :
    ∃ part, (∀ operator ∈ [Argument.ofText r.name, .operator (.test r)],
        (Clause.any field (Clause.anyMapping operator (.ofText s))).render = .ok part) ∧
      ofText .doubled text = .ok ⟨[part]⟩ :=
  ⟨_, fun _ hoperator => Clause.render_any_mapping r field s hoperator,
    ofText_of_spelling hfield hv (Lambda.admits_of_operand r (.quoted s))
      (Literal.canonical_quote s) h⟩

/-- Blanks and parentheses wherever they may stand, a field that ends like a collection itself, and
    a value that looks like the rest of a lambda. -/
def spellingSample : Text := "( t/any/any( v\t: ( startswith ( v ,' :)''/any(, ' ) ) ) )".toList

theorem spelling_spellingSample :
    Spelling "t/any".toList "v".toList (Literal.quote " :)'/any(, ".toList) (.call .startsWith)
      spellingSample := by
  have hspace := Text.allBlank_space
  have hnone := Text.allBlank_nil
  have htab : Text.AllBlank ['\t'] := by
    intro c hc
    rw [List.mem_singleton.1 hc]
    rfl
  have hcondition := Lambda.ConditionSpelling.call (v := "v".toList)
    (w := Literal.quote " :)'/any(, ".toList) .startsWith hspace hspace hspace hnone hspace
  have hlambda : Lambda.BareSpelling "t/any".toList _ _ _ _ :=
    .mk hspace htab hspace (.parenthesized hspace hcondition hspace) hspace
  exact .parenthesized hspace hlambda hspace

theorem ofText_spelling_spellingSample :
    CollectionField "t/any".toList ∧ VariableName "v".toList ∧
      ∃ part, (∀ operator ∈ [Argument.ofText "startswith".toList, .operator (.test (.call .startsWith))],
          (Clause.any "t/any".toList
            (Clause.anyMapping operator (.ofText " :)'/any(, ".toList))).render = .ok part) ∧
        ofText .doubled spellingSample = .ok ⟨[part]⟩ := by
  have hfield : CollectionField "t/any".toList :=
    ⟨by decide, List.all_eq_true.1 (by decide), by decide⟩
  have hv : VariableName "v".toList :=
    Lambda.variableName_of_all (by decide) (by decide) (by decide)
  exact ⟨hfield, hv, ofText_spelling hfield hv spelling_spellingSample⟩

end Filter

end QueryFilter
