/-
  CULPRITS — where the token that a fault points at stands in the text.

  1. **The rule** — a fault at the end of the row has no culprit.  Any other one has an index in the
     row, and its culprit stands in the text, within the token at that index (`StandsWithin`).
  2. **The exception** — a call that makes up the body of a lambda and cannot be taken apart is
     itself the culprit, with its place in the body instead of the text (`BodyCall`).  It does not
     stand there in the text; it does if its place is counted from the start of the body.

  Both together: `ofText_culprit`.
-/
import QueryFilter.Proofs.Filter.Failure
import QueryFilter.Proofs.Token.Body

namespace QueryFilter.Filter

open Token (tokenize)
open Clause (Blames)
open Lambda (BodyCall)

variable {policy : QuotePolicy} {text : Text}

/-- A scanned token is not the call in a body of its own. -/
theorem not_bodyCall_self (t : Token) : ¬ BodyCall policy t t := fun h =>
  absurd (Token.length_lt_of_bodyCall h) (Nat.lt_irrefl _)

/-- A fault blames the token at its index, or the call in the body of the lambda there. -/
theorem exists_culprit_of_blames {e : ReadFault} {t : Token} {ts : List Token}
    (ht : t ∈ tokenize policy text) (h : Blames policy e (t :: ts)) :
    ∃ c, e.culprit = some c ∧ (c = t ∨ BodyCall policy t c) := by
  cases h with
  | misplaced hculprit => exact ⟨t, hculprit, Or.inl rfl⟩
  | call hk hfault =>
    have hshaped := Token.shaped_of_mem ht
    rw [hk] at hshaped
    exact ⟨t, (Clause.fault_of_scanned_call hshaped hfault).1, Or.inl rfl⟩
  | lambda _ hfault =>
    rcases Clause.fault_of_lambda hfault with ⟨hculprit, -⟩ | ⟨call, hbody, hculprit, -⟩
    · exact ⟨t, hculprit, Or.inl rfl⟩
    · exact ⟨call, hculprit, Or.inr hbody⟩

/-- **The culprit of a fault stands in the text within the token at its index, or is the call in the
    body of the lambda there.**  In the second case it does not stand at its place in the text, but
    where that place is counted from the start of the body. -/
theorem ofText_culprit {e : ReadFault} (h : ofText policy text = .error (.reading e)) :
    (e.index = (tokenize policy text).length ∧ e.culprit = none) ∨
    ∃ (i : Nat) (t c : Token), e.index = i ∧ (tokenize policy text)[i]? = some t ∧
      e.culprit = some c ∧
      (¬ BodyCall policy t c → c.StandsWithin text t) ∧
      (BodyCall policy t c → ¬ c.StandsWithin text t ∧
        ∃ (parts : Lambda.Head) (start : Nat), Lambda.Head.ofText? t.text = some parts ∧
          (text.drop start).take parts.body.length = parts.body ∧
          Token.StandsWithin ⟨c.kind, c.text, start + c.pos⟩ text t) := by
  obtain ⟨e', front, back, heq, hbroken⟩ := exists_broken_of_ofText h
  cases heq
  have htokens : tokenize policy text = front ++ back := hbroken.tokens_eq
  have hindex : e.index = front.length := by
    rw [hbroken.index_eq]
    simp
  cases back with
  | nil =>
    left
    cases hbroken.blames with
    | tooShort hculprit => exact ⟨by rw [hindex, htokens, List.append_nil], hculprit⟩
  | cons t ts =>
    right
    have ht : t ∈ tokenize policy text := by
      rw [htokens]
      exact List.mem_append_right _ (List.mem_cons_self ..)
    have hstands := Token.standsIn_of_mem_tokenize ht
    obtain ⟨c, hculprit, hc⟩ := exists_culprit_of_blames ht hbroken.blames
    refine ⟨front.length, t, c, hindex, by rw [htokens]; simp, hculprit, ?_, ?_⟩
    · intro hnot
      rcases hc with rfl | hbody
      · exact hstands.within_self
      · exact absurd hbody hnot
    · intro hbody
      exact ⟨Token.not_standsWithin_of_bodyCall hbody hstands,
        Token.exists_start_of_bodyCall hbody hstands⟩

/-- A lambda about another variable than its own, behind a comparison and inside blanks. -/
def strayLambda : Text := "a eq 1 and ( t/any(x: y eq 1) )".toList

theorem ofText_culprit_strayLambda :
    ∃ (e : ReadFault) (c : Token), ofText .doubled strayLambda = .error (.reading e) ∧ e.index = 4 ∧
      e.culprit = some c ∧ c.pos = 11 ∧ c.StandsWithin strayLambda c := by
  obtain ⟨e, he, hindex, hculprit⟩ : ∃ e, readFault? (ofText .doubled strayLambda) = some e ∧
      e.index = 4 ∧ e.culprit = some ⟨.lambda, "( t/any(x: y eq 1) )".toList, 11⟩ := by
    decide +kernel
  have hfault := readFault?_eq_some_iff.1 he
  refine ⟨e, _, hfault, hindex, hculprit, rfl, ?_⟩
  rcases ofText_culprit hfault with ⟨-, hnone⟩ | ⟨i, t, c, hi, ht, hc, hrule, -⟩
  · rw [hculprit] at hnone
    cases hnone
  · rw [hculprit] at hc
    cases hc
    have h4 : i = 4 := by omega
    subst h4
    have htoken : (tokenize .doubled strayLambda)[4]? =
        some ⟨.lambda, "( t/any(x: y eq 1) )".toList, 11⟩ := by decide +kernel
    rw [htoken] at ht
    cases ht
    exact hrule (not_bodyCall_self _)

/-- The place of the call in a body is not its place in the text. -/
theorem not_ofText_culprit :
    ¬ ∀ (policy : QuotePolicy) (text : Text) (e : ReadFault),
      ofText policy text = .error (.reading e) →
      (e.index = (tokenize policy text).length ∧ e.culprit = none) ∨
      ∃ (i : Nat) (t c : Token), e.index = i ∧ (tokenize policy text)[i]? = some t ∧
        e.culprit = some c ∧ c.StandsWithin text t := by
  intro h
  obtain ⟨e, he, hculprit⟩ : ∃ e,
      readFault? (ofText .doubled "t/any(x:contains(x))".toList) = some e ∧
      e.culprit = some ⟨.call, "contains(x)".toList, 0⟩ := by
    decide +kernel
  rcases h _ _ e (readFault?_eq_some_iff.1 he) with ⟨-, hnone⟩ | ⟨i, t, c, -, -, hc, hstands⟩
  · rw [hculprit] at hnone
    cases hnone
  · rw [hculprit] at hc
    cases hc
    -- at the place of the call, the text begins with the field
    obtain ⟨n, hn, hslice⟩ := hstands.standsIn
    have hzero : n = 0 := by
      simp only at hn
      omega
    subst hzero
    revert hslice
    decide

end QueryFilter.Filter
