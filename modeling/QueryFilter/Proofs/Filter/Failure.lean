/-
  FAILURE — a text is a filter, or it has a fault that points at a token.

  1. **Known comparisons** — the comparisons of a text are words of relations (`known_tokenize`), so
     that a text which is no filter is broken at a token: no argument fault, no limit and no
     operator fault comes out of a reading.
  2. **Scanned calls and lambdas** — of the causes of reading faults some are foreign to a text: its
     calls have a name and parentheses, and the operators of its calls and lambdas are relations.
-/
import QueryFilter.Proofs.Filter.Viable

namespace QueryFilter.Filter

open Token (tokenize)
open Clause (Known Blames)

variable {policy : QuotePolicy} {text : Text}

/-- The comparisons of a text are words of relations. -/
theorem known_tokenize (policy : QuotePolicy) (text : Text) : Known (tokenize policy text) := by
  intro t ht hk
  obtain ⟨op, hop⟩ := Token.comparison_of_mem ht hk
  rw [hop, show op.name = (Relation.compare op).name from rfl, Relation.relation?_name]
  rfl

/-- A text that is no filter is broken at one of its tokens or at its end. -/
theorem exists_broken_of_ofText {fault : Fault} (h : ofText policy text = .error fault) :
    ∃ e front back, fault = .reading e ∧ Broken policy ⟨0, tokenize policy text⟩ e front back :=
  exists_broken_of_ofTokens (known_tokenize policy text) h

/-- The fault of a scanned call is not foreign. -/
theorem not_foreign_of_ofCall {index : Int} {t : Token} {e : ReadFault}
    (ht : t ∈ tokenize policy text)
    (hk : t.kind = .call) (h : Clause.ofCall policy index t = .error e) : ¬ e.cause.Foreign := by
  have hshaped := Token.shaped_of_mem ht
  rw [hk] at hshaped
  obtain ⟨-, name, hcause⟩ := Clause.fault_of_scanned_call hshaped h
  rw [hcause]
  exact id

/-- The fault of a lambda is not foreign, since its body is scanned whatever its text is. -/
theorem not_foreign_of_ofLambda {index : Int} {t : Token} {e : ReadFault}
    (h : Clause.ofLambda policy index t = .error e) : ¬ e.cause.Foreign := by
  rcases Clause.fault_of_lambda h with ⟨-, hcause | hcause | ⟨binder, subject, hcause⟩⟩ |
    ⟨call, -, -, name, hcause⟩
  all_goals
    rw [hcause]
    exact id

theorem not_foreign_of_blames {e : ReadFault} {back : List Token}
    (hback : ∀ t ∈ back, t ∈ tokenize policy text) (h : Blames policy e back) :
    ¬ e.cause.Foreign := by
  cases h with
  | tooShort _ hfamiliar => exact hfamiliar
  | misplaced _ hfamiliar => exact hfamiliar
  | call hk hfault => exact not_foreign_of_ofCall (hback _ (List.mem_cons_self ..)) hk hfault
  | lambda _ hfault => exact not_foreign_of_ofLambda hfault

/-- **A text is a filter, or has a reading fault of a cause that is not foreign.**  And neither a
    call nor a lambda among its tokens, the call in the body of a lambda included, ever fails for a
    foreign cause, wherever reading stops. -/
theorem ofText_total (policy : QuotePolicy) (text : Text) :
    ((∃ f, ofText policy text = .ok f) ∨
      ∃ e, ofText policy text = .error (.reading e) ∧ ¬ e.cause.Foreign) ∧
    ∀ t ∈ tokenize policy text, ∀ (index : Int) (e : ReadFault),
      (t.kind = .call → Clause.ofCall policy index t = .error e → ¬ e.cause.Foreign) ∧
      (t.kind = .lambda → Clause.ofLambda policy index t = .error e → ¬ e.cause.Foreign) := by
  constructor
  · cases h : ofText policy text with
    | ok f => exact Or.inl ⟨f, rfl⟩
    | error fault =>
      obtain ⟨e, front, back, rfl, hbroken⟩ := exists_broken_of_ofText h
      have hback : ∀ t ∈ back, t ∈ tokenize policy text := by
        intro t ht
        rw [show tokenize policy text = front ++ back from hbroken.tokens_eq]
        exact List.mem_append_right _ ht
      exact Or.inr ⟨e, rfl, not_foreign_of_blames hback hbroken.blames⟩
  · intro t ht index e
    exact ⟨fun hk h => not_foreign_of_ofCall ht hk h, fun _ h => not_foreign_of_ofLambda h⟩

end QueryFilter.Filter
