/-
  VIABLE ROWS — a row that is no filter breaks at the first token that no continuation repairs.

  1. **Specification** — `Viable policy tokens`: some further tokens make the row a filter.  Items
     in front of a row do not matter for that (`viable_append_iff`).
  2. **One step** — the beginning of an item is viable, and with the token at which the reader of
     clauses stops it is not (`viable_of_begun`, `not_viable_of_firm`).
  3. **The run** — `Broken policy row e front back`: the fault `e` is about the front of `back`,
     `front` is viable, and with the first token of `back` it is not.  By induction along the
     reading a row of known comparisons is a filter or broken (`exists_broken_of_partsOf`).
-/
import QueryFilter.Proofs.Clause.Blame
import QueryFilter.Proofs.Filter.Decomposition

namespace QueryFilter.Filter

open Clause (Item Begun Blames Known)

variable {policy : QuotePolicy}

/-! ## Viable rows -/

/-- Some further tokens make the row a filter. -/
def Viable (policy : QuotePolicy) (tokens : List Token) : Prop :=
  ∃ rest f, ofTokens policy (tokens ++ rest) = .ok f

theorem viable_iff {tokens : List Token} :
    Viable policy tokens ↔ ∃ rest d, Decomposes policy (tokens ++ rest) d := by
  constructor
  · rintro ⟨rest, f, hf⟩
    obtain ⟨d, hd, -⟩ := ofTokens_eq_ok_iff.1 hf
    exact ⟨rest, d, hd⟩
  · rintro ⟨rest, d, hd⟩
    obtain ⟨parts, hparts⟩ := exists_parts hd.2
    exact ⟨rest, ⟨parts⟩, ofTokens_eq_ok_iff.2 ⟨d, hd, hparts⟩⟩

/-- **An item in front of a row does not matter for it.** -/
theorem viable_append_iff {ts : List Token} {c : Clause} (hitem : Item policy ts c)
    (tokens : List Token) : Viable policy (ts ++ tokens) ↔ Viable policy tokens := by
  rw [viable_iff, viable_iff]
  constructor
  · rintro ⟨rest, d, hd⟩
    rw [List.append_assoc] at hd
    cases d with
    | nil =>
      exfalso
      have hnil : ts ++ (tokens ++ rest) = [] := hd.1
      exact item_ne_nil hitem (List.append_eq_nil_iff.1 hnil).1
    | cons p d =>
      obtain ⟨rest', heq, hitem', hrest'⟩ := exists_of_decomposes_cons hd
      obtain ⟨-, -, hrest⟩ := item_append_inj hitem hitem' heq
      exact ⟨rest, d, hrest ▸ hrest'⟩
  · rintro ⟨rest, d, hd⟩
    refine ⟨rest, (ts, c) :: d, ?_⟩
    rw [List.append_assoc]
    exact decomposes_cons hitem hd

/-! ## One step -/

/-- The beginning of an item is viable. -/
theorem viable_of_begun {front : List Token} (h : Begun front) (hknown : Known front) :
    Viable policy front := by
  rw [viable_iff]
  by_cases hne : front = []
  · subst hne
    exact ⟨[], [], decomposes_nil policy⟩
  · obtain ⟨rest, c, hitem⟩ := Clause.exists_item_of_begun policy h hne hknown
    refine ⟨rest, [(front ++ rest, c)], ?_⟩
    have hcons := decomposes_cons hitem (decomposes_nil policy)
    rwa [List.append_nil] at hcons

/-- A row is not viable if no clause can be read off its front, whatever follows it. -/
theorem not_viable_of_firm {index : Nat} {front : List Token} {t : Token} {e : ReadFault}
    (h : ∀ rest, Clause.read policy ⟨index, front ++ t :: rest⟩ = .error e) :
    ¬ Viable policy (front ++ [t]) := by
  rw [viable_iff]
  rintro ⟨rest, d, hd⟩
  rw [List.append_assoc, List.singleton_append] at hd
  cases d with
  | nil =>
    have hnil : front ++ t :: rest = [] := hd.1
    exact List.cons_ne_nil _ _ (List.append_eq_nil_iff.1 hnil).2
  | cons p d =>
    -- the first item would be read
    obtain ⟨rest', heq, hitem, -⟩ := exists_of_decomposes_cons hd
    have hread := h rest
    rw [heq, Clause.read_item hitem] at hread
    cases hread

/-! ## The run -/

/-- The row is read up to `back`, where the fault is. -/
structure Broken (policy : QuotePolicy) (row : Token.Row) (e : ReadFault)
    (front back : List Token) : Prop where
  tokens_eq : row.tokens = front ++ back
  index_eq : e.index = (row.index + front.length : Nat)
  blames : Blames policy e back
  viable : Viable policy front
  not_viable : ∀ t ts, back = t :: ts → ¬ Viable policy (front ++ [t])

/-- A row at whose front no clause can be read. -/
theorem exists_broken_of_read {row : Token.Row} {e : ReadFault} (hknown : Known row.tokens)
    (h : Clause.read policy row = .error e) : ∃ front back, Broken policy row e front back := by
  obtain ⟨index, tokens⟩ := row
  obtain ⟨front, back, rfl, hbegun, hstops⟩ := Clause.exists_stops_of_read h
  have hfront : Known front := fun t ht => hknown t (List.mem_append_left _ ht)
  refine ⟨front, back, rfl, hstops.index_eq, hstops.blames, viable_of_begun hbegun hfront, ?_⟩
  intro t ts hback
  exact not_viable_of_firm (hstops.firm t ts hback)

/-- An item in front of a broken row leaves it broken at the same token. -/
theorem Broken.append {ts tokens front back : List Token} {c : Clause} {index : Nat} {e : ReadFault}
    (hitem : Item policy ts c) (h : Broken policy ⟨index + ts.length, tokens⟩ e front back) :
    Broken policy ⟨index, ts ++ tokens⟩ e (ts ++ front) back where
  tokens_eq := by
    show ts ++ tokens = _
    rw [show tokens = front ++ back from h.tokens_eq, List.append_assoc]
  index_eq := by
    rw [h.index_eq, List.length_append]
    show ((index + ts.length + front.length : Nat) : Int) =
        (index + (ts.length + front.length) : Nat)
    omega
  blames := h.blames
  viable := (viable_append_iff hitem front).2 h.viable
  not_viable := by
    intro t us hback
    rw [List.append_assoc, viable_append_iff hitem]
    exact h.not_viable t us hback

/-- **A row of known comparisons that is no filter is broken.** -/
theorem exists_broken_of_partsOf {row : Token.Row} {fault : Fault} (hknown : Known row.tokens)
    (h : partsOf policy row = .error fault) :
    ∃ e front back, fault = .reading e ∧ Broken policy row e front back := by
  fun_induction partsOf policy row with
  | case1 row fault' hnext =>
    cases h
    unfold next at hnext
    split at hnext
    · rename_i e hread
      cases hnext
      obtain ⟨front, back, hbroken⟩ := exists_broken_of_read hknown hread
      exact ⟨e, front, back, rfl, hbroken⟩
    · cases hnext
    · -- a clause of known tokens can be written
      rename_i c row' hread
      obtain ⟨part, hpart⟩ := Clause.exists_render_of_read hread hknown
      rw [hpart] at hnext
      cases hnext
  | case2 => cases h
  | case3 row part row' hnext ih =>
    obtain ⟨index, tokens⟩ := row
    obtain ⟨ts, c, hitem, hrender, htokens⟩ := item_of_next hnext
    change tokens = ts ++ row'.tokens at htokens
    subst htokens
    rw [next_item hitem hrender index row'.tokens] at hnext
    have hrow : row' = ⟨index + ts.length, row'.tokens⟩ := by
      simp only [Except.ok.injEq, Option.some.injEq, Prod.mk.injEq] at hnext
      exact hnext.2.symm
    have hrest : Known row'.tokens := fun t ht => hknown t (List.mem_append_right _ ht)
    obtain ⟨e, front, back, rfl, hbroken⟩ := ih hrest (map_eq_error_iff.1 h)
    rw [hrow] at hbroken
    exact ⟨e, ts ++ front, back, rfl, hbroken.append hitem⟩

theorem exists_broken_of_ofTokens {tokens : List Token} {fault : Fault} (hknown : Known tokens)
    (h : ofTokens policy tokens = .error fault) :
    ∃ e front back, fault = .reading e ∧ Broken policy ⟨0, tokens⟩ e front back :=
  exists_broken_of_partsOf hknown (map_eq_error_iff.1 h)

/-- The fault with which reading failed. -/
def readFault? {α : Type} : Except Fault α → Option ReadFault
  | .error (.reading e) => some e
  | _ => none

theorem readFault?_eq_some_iff {α : Type} {x : Except Fault α} {e : ReadFault} :
    readFault? x = some e ↔ x = .error (.reading e) := by
  cases x with
  | ok a => simp [readFault?]
  | error fault => cases fault <;> simp [readFault?]

/-- **A fault points at the first token that no continuation repairs.**  The tokens before it
    can be completed to a filter; with it they cannot; and a fault that points at no token is
    at the end of the row. -/
theorem ofTokens_viable {tokens : List Token} {fault : Fault} (hknown : Known tokens)
    (h : ofTokens policy tokens = .error fault) :
    ∃ (e : ReadFault) (i : Nat), fault = .reading e ∧ e.index = i ∧ i ≤ tokens.length ∧
      Viable policy (tokens.take i) ∧
      (i < tokens.length ∧ ¬ Viable policy (tokens.take (i + 1)) ∨
        i = tokens.length ∧ e.culprit = none) := by
  obtain ⟨e, front, back, rfl, hbroken⟩ := exists_broken_of_ofTokens hknown h
  have htokens : tokens = front ++ back := hbroken.tokens_eq
  have hindex : e.index = front.length := by
    rw [hbroken.index_eq]
    simp
  subst htokens
  refine ⟨e, front.length, rfl, hindex, by simp, ?_, ?_⟩
  · rw [List.take_left]
    exact hbroken.viable
  · cases back with
    | nil =>
      right
      refine ⟨by simp, ?_⟩
      cases hbroken.blames with
      | tooShort hculprit => exact hculprit
    | cons t ts =>
      left
      refine ⟨by simp, ?_⟩
      have htake : (front ++ t :: ts).take (front.length + 1) = front ++ [t] :=
        List.take_length_add_append 1
      rw [htake]
      exact hbroken.not_viable t ts rfl

/-- A list in which the second group stands for a value, behind an unclosed group and missing or
    repeated commas: all that is before it can still become a filter. -/
def brokenSample : List Token := Token.tokenize .doubled "(a eq 'x' b in (1,,2 (c))".toList

theorem ofTokens_viable_brokenSample :
    Known brokenSample ∧
    ∃ e : ReadFault, ofTokens .doubled brokenSample = .error (.reading e) ∧ e.index = 11 ∧
      Viable .doubled (brokenSample.take 11) ∧ ¬ Viable .doubled (brokenSample.take 12) := by
  have hknown : Known brokenSample := by
    unfold Known
    decide +kernel
  obtain ⟨e, he, hindex⟩ : ∃ e, readFault? (ofTokens .doubled brokenSample) = some e ∧
      e.index = 11 :=
    by decide +kernel
  have hfault := readFault?_eq_some_iff.1 he
  obtain ⟨e', i, heq, hi, hle, hviable, hbroken⟩ := ofTokens_viable hknown hfault
  cases heq
  have h11 : i = 11 := by omega
  subst h11
  refine ⟨hknown, e, hfault, hindex, hviable, ?_⟩
  rcases hbroken with ⟨-, hbroken⟩ | ⟨hend, -⟩
  · exact hbroken
  · have hlength : 11 ≠ brokenSample.length := by decide +kernel
    exact absurd hend hlength

end QueryFilter.Filter
