/-
  THE NAME OF AN ELEMENT — what becomes of a lambda when its variable is renamed.

  Reading writes every lambda with the variable `x`.  The subject of its condition is renamed with
  it, but its value is written as it was read, and that value may be a name too.

  1. **Meaning** — a lambda without the name of its variable (`Nameless`): the value is the element
     itself, or it stands for something outside.  Two lambdas mean the same when only that name sets
     them apart.
  2. **Reading and writing** — a text is taken apart into the lambda that it spells
     (`ofText?_eq_some_of_spelling`), what is read (`spelling_comparisonText`) and what is written
     alike.
  3. **When the meaning is kept** — exactly if the variable was `x` already, or the value is neither
     the old variable nor the new one (`ofText_renamed`).  Otherwise the element itself is lost
     (`not_renaming_keeps_meaning`), or a name from outside is caught.
-/
import QueryFilter.Proofs.Filter.Spelling

namespace QueryFilter

open Token (PlainWord)

/-! ## Meaning -/

/-- What a name in a condition stands for. -/
inductive Reference
  /-- The element that the condition is about. -/
  | element
  /-- Something that has this name outside the lambda. -/
  | outer (name : Text)
deriving DecidableEq, Repr, Inhabited

/-- A lambda whose value is a name, without the name of its variable. -/
structure Nameless where
  field : Text
  operator : Text
  value : Reference
deriving DecidableEq, Repr, Inhabited

namespace Lambda

/-- What the value of a lambda stands for: its own variable hides any other use of that name. -/
def reference (l : Lambda) : Reference := if l.value = l.binder then .element else .outer l.value

/-- A lambda without the name of its variable. -/
def nameless (l : Lambda) : Nameless := ⟨l.field, l.operator, l.reference⟩

/-- Renaming the variable and nothing else keeps the meaning exactly if the value is
    both variables or neither. -/
theorem nameless_eq_iff (field binder binder' operator value : Text) :
    nameless ⟨field, binder, operator, value⟩ = nameless ⟨field, binder', operator, value⟩ ↔
      (value = binder ↔ value = binder') := by
  simp only [nameless, reference, Nameless.mk.injEq, true_and]
  by_cases h : value = binder
  · by_cases h' : value = binder'
    · rw [if_pos h, if_pos h']
      exact iff_of_true rfl (iff_of_true h h')
    · rw [if_pos h, if_neg h']
      exact iff_of_false Reference.noConfusion fun hiff => h' (hiff.1 h)
  · by_cases h' : value = binder'
    · rw [if_neg h, if_pos h']
      exact iff_of_false Reference.noConfusion fun hiff => h (hiff.2 h')
    · rw [if_neg h, if_neg h']
      exact iff_of_true rfl (iff_of_false h h')

/-! ## Reading and writing -/

/-- The lambda that a text is, if it is a single token that can be taken apart. -/
def ofText? (text : Text) : Option Lambda :=
  match Token.tokenize .doubled text with
  | [t] => if t.kind = .lambda then (ofToken .doubled 0 t).toOption else none
  | _ => none

/-- Every spelling is the lambda that it says. -/
theorem ofText?_eq_some_of_spelling {text field v w : Text} {r : Relation}
    (hfield : CollectionField field) (hv : VariableName v) (hw : Admits r w)
    (h : Spelling field v w r text) : ofText? text = some ⟨field, v, r.name, w⟩ := by
  obtain ⟨t, rest, htokens, hkind, htext, hrest⟩ :=
    Token.exists_of_map_piece (map_piece_tokenize_of_spelling hfield hv hw.balanced h)
  rw [List.map_eq_nil_iff.1 hrest] at htokens
  rw [ofText?, htokens]
  simp only [hkind, if_true]
  rw [ofToken_of_spelling 0 hfield.ne_nil hfield.inWord hv hw (htext ▸ h)]
  rfl

/-- The text of a lambda that compares its variable with a value. -/
def comparisonText (field v : Text) (op : Comparison) (value : Text) : Text :=
  field ++ "/any(".toList ++ v ++ ':' :: Clause.relationText (.compare op) v value ++ [')']

theorem spelling_comparisonText (field v : Text) (op : Comparison) (value : Text) :
    Spelling field v value (.compare op) (comparisonText field v op value) := by
  have hspace := Text.allBlank_space
  have hnone := Text.allBlank_nil
  have hcondition := ConditionSpelling.comparison (v := v) (w := value) op hspace (by simp) hspace
    (by simp)
  have hlambda : BareSpelling field v value (.compare op) _ :=
    .mk hnone hnone hnone (.bare hcondition) hnone
  have hspelling : Spelling field v value (.compare op) _ := .bare hlambda
  simpa [comparisonText, Clause.relationText, Token.anySuffix] using hspelling

end Lambda

/-! ## When the meaning is kept -/

namespace Filter

open Lambda (CollectionField VariableName comparisonText)

/-- **Reading renames the variable of a comparison to `x`, and leaves a name on its other side as it
    is.**  What was read and what is written mean the same exactly if the variable was `x` already,
    or the name on the other side is neither the variable nor `x`. -/
theorem ofText_renamed {field v r : Text} (op : Comparison) (hfield : CollectionField field)
    (hv : VariableName v) (hr : VariableName r) (hraw : Numeral.read? r = none) :
    ∃ part l l', ofText .doubled (comparisonText field v op r) = .ok ⟨[part]⟩ ∧
      Lambda.ofText? (comparisonText field v op r) = some l ∧ Lambda.ofText? part = some l' ∧
      l = ⟨field, v, op.name, r⟩ ∧ l' = ⟨field, Clause.binder, op.name, r⟩ ∧
      (l.nameless = l'.nameless ↔ v = Clause.binder ∨ (r ≠ v ∧ r ≠ Clause.binder)) := by
  have hname := hr.plainName
  have hadmits : Lambda.Admits (.compare op) r := .word hname.toPlainWord hname.notKeyword
  have hcanonical := Literal.canonical_of_raw hname.unquote? hraw
  have hspelling := Lambda.spelling_comparisonText field v op r
  refine ⟨_, _, _, ofText_of_spelling hfield hv hadmits hcanonical hspelling,
    Lambda.ofText?_eq_some_of_spelling hfield hv hadmits hspelling,
    Lambda.ofText?_eq_some_of_spelling hfield Lambda.variableName_binder hadmits
      (Lambda.spelling_anyText _ field r), rfl, rfl, ?_⟩
  rw [Lambda.nameless_eq_iff]
  constructor
  · intro h
    by_cases hrv : r = v
    · exact Or.inl (by rw [← hrv, h.1 hrv])
    · exact Or.inr ⟨hrv, fun hbinder => hrv (h.2 hbinder)⟩
  · rintro (rfl | ⟨hrv, hbinder⟩)
    · exact Iff.rfl
    · exact ⟨fun h => absurd h hrv, fun h => absurd h hbinder⟩

theorem ofText_renamed_limit :
    CollectionField "t".toList ∧ VariableName "y".toList ∧ VariableName "limit".toList ∧
      Numeral.read? "limit".toList = none ∧
      ∃ part l l', ofText .doubled "t/any(y:y le limit)".toList = .ok ⟨[part]⟩ ∧
        Lambda.ofText? "t/any(y:y le limit)".toList = some l ∧ Lambda.ofText? part = some l' ∧
        l = ⟨"t".toList, "y".toList, "le".toList, "limit".toList⟩ ∧
        l' = ⟨"t".toList, "x".toList, "le".toList, "limit".toList⟩ ∧ l.nameless = l'.nameless := by
  have hfield : CollectionField "t".toList := ⟨by decide, List.all_eq_true.1 (by decide), by decide⟩
  have hv : VariableName "y".toList :=
    Lambda.variableName_of_all (by decide) (by decide) (by decide)
  have hr : VariableName "limit".toList :=
    Lambda.variableName_of_all (by decide) (by decide) (by decide)
  have hraw : Numeral.read? "limit".toList = none := by decide
  obtain ⟨part, l, l', hparts, hl, hl', hread, hwritten, hkept⟩ :=
    ofText_renamed .le hfield hv hr hraw
  exact ⟨hfield, hv, hr, hraw, part, l, l', hparts, hl, hl', hread, hwritten,
    hkept.2 (Or.inr (by decide))⟩

/-- **Renaming does not always keep the meaning**: in `t/any(v:v eq v)` every element is compared
    with itself, and in what is written for it with something outside. -/
theorem not_renaming_keeps_meaning :
    ¬ ∀ (field v r : Text) (op : Comparison), PlainWord field → VariableName v → VariableName r →
      Numeral.read? r = none →
      ∃ part l l', ofText .doubled (comparisonText field v op r) = .ok ⟨[part]⟩ ∧
        Lambda.ofText? (comparisonText field v op r) = some l ∧ Lambda.ofText? part = some l' ∧
        l.nameless = l'.nameless := by
  intro h
  have hfield : PlainWord "t".toList := Token.plainWord_of_all (by decide) (by decide)
  have hv : VariableName "v".toList :=
    Lambda.variableName_of_all (by decide) (by decide) (by decide)
  obtain ⟨part, l, l', hparts, hl, hl', hsame⟩ := h _ _ _ .eq hfield hv hv (by decide)
  have hread : (ofText .doubled (comparisonText "t".toList "v".toList .eq "v".toList)).toOption =
      some ⟨["(t/any(x:(x eq v)))".toList]⟩ := by decide +kernel
  have hinput : Lambda.ofText? (comparisonText "t".toList "v".toList .eq "v".toList) =
      some ⟨"t".toList, "v".toList, "eq".toList, "v".toList⟩ := by decide +kernel
  have houtput : Lambda.ofText? "(t/any(x:(x eq v)))".toList =
      some ⟨"t".toList, "x".toList, "eq".toList, "v".toList⟩ := by decide +kernel
  rw [hparts] at hread
  cases hread
  rw [hinput] at hl
  rw [houtput] at hl'
  cases hl
  cases hl'
  revert hsame
  decide

end Filter

end QueryFilter
