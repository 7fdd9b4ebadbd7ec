/-
  REPLAY — a filter of settled parts is read back from its text, part by part.

  1. **Gaps** — a part is followed by a blank, by a closing parenthesis or by nothing, unless it is
     an opening one (`partEnds_textAfter`).
  2. **Scan** — by induction on the parts, the text behind a part is scanned as the items of the
     parts that it was made from (`exists_scans_textAfter`).  The invariant is `Reading`: pieces and
     clauses side by side, each clause with the text of its part.
  3. **Reading** — tokens with these pieces decompose into those items, so that the filter
     comes back (`ofText_text`).
-/
import QueryFilter.Proofs.Clause.Settled
import QueryFilter.Proofs.Filter.Decomposition

namespace QueryFilter.Filter

open Clause (Settled Means PartEnds)
open Token

/-- A text is part of the parts behind `before`, with the first of them an opening. -/
theorem text_eq_textAfter (f : Filter) : f.text = textAfter ['('] f.parts := by
  unfold text
  cases f.parts with
  | nil => rfl
  | cons part parts =>
    have hgap : gap ['('] part = [] := by simp [gap]
    show _ = gap ['('] part ++ part ++ textAfter part parts
    rw [hgap, List.nil_append]

/-- Behind a part that is no opening stands a blank, a closing parenthesis, or nothing. -/
theorem partEnds_textAfter {part : Text} (hpart : part ≠ ['(']) (parts : List Text) :
    PartEnds (textAfter part parts) := by
  cases parts with
  | nil => exact Or.inl rfl
  | cons next parts =>
    by_cases hnext : next = [')']
    · subst hnext
      have hgap : gap part [')'] = [] := by simp [gap]
      refine Or.inr (Or.inr ⟨textAfter [')'] parts, ?_⟩)
      rw [textAfter, hgap]
      rfl
    · have hgap : gap part next = [' '] := by simp [gap, hpart, hnext]
      refine Or.inr (Or.inl ⟨next ++ textAfter next parts, ?_⟩)
      rw [textAfter, hgap]
      rfl

/-- No lambda stands behind an opening part. -/
theorem lambda?_textAfter_opening {parts : List Text} (h : ∀ part ∈ parts, Settled part) :
    lambda? ((textAfter ['('] parts).dropWhile Text.isBlank) = none := by
  cases parts with
  | nil => rfl
  | cons part parts =>
    have hgap : gap ['('] part = [] := by simp [gap]
    rw [textAfter, hgap, List.nil_append]
    by_cases hpart : part = ['(']
    · subst hpart
      show lambda? (('(' :: textAfter ['('] parts).dropWhile Text.isBlank) = none
      rw [List.dropWhile_cons_of_neg (by decide)]
      rfl
    · exact Clause.lambda?_settled (h part (List.mem_cons_self ..)) (partEnds_textAfter hpart parts)

/-- Pieces and clauses of parts, side by side. -/
structure Reading (parts : List Text) (d : List (List (Kind × Text) × Clause)) : Prop where
  means : ∀ p ∈ d, Means p.1 p.2
  render : d.map (fun p => p.2.render) = parts.map .ok

theorem Reading.nil : Reading [] [] := ⟨by simp, rfl⟩

theorem Reading.cons {part : Text} {parts : List Text} {ps : List (Kind × Text)} {c : Clause}
    {d : List (List (Kind × Text) × Clause)} (hmeans : Means ps c) (hrender : c.render = .ok part)
    (h : Reading parts d) : Reading (part :: parts) ((ps, c) :: d) := by
  refine ⟨?_, ?_⟩
  · intro p hp
    rcases List.mem_cons.1 hp with rfl | hp
    · exact hmeans
    · exact h.means p hp
  · rw [List.map_cons, List.map_cons, h.render, hrender]

/-- **The text behind a part is scanned as the items of the parts in it.** -/
theorem exists_scans_textAfter (before : Text) {parts : List Text}
    (h : ∀ part ∈ parts, Settled part) :
    ∃ d, Scans .doubled (textAfter before parts) (d.map Prod.fst).flatten [] ∧ Reading parts d := by
  induction parts generalizing before with
  | nil => exact ⟨[], Scans.done [], .nil⟩
  | cons part parts ih =>
    have hrest : ∀ part ∈ parts, Settled part := fun p hp => h p (List.mem_cons_of_mem _ hp)
    obtain ⟨d, hscan, hreading⟩ := ih part hrest
    -- the part itself, up to the text behind it
    obtain ⟨p, ps, c, hfirst, hmeans, hrender⟩ : ∃ p ps c,
        Scans .doubled (part ++ textAfter part parts) (p :: ps) (textAfter part parts) ∧
          Means (p :: ps) c ∧ c.render = .ok part := by
      by_cases hpart : part = ['(']
      · subst hpart
        exact ⟨_, _, .opening,
          scans_opening (wrappedLambda?_eq_none (lambda?_textAfter_opening hrest)),
          Clause.means_single fun t hk _ => .opening hk, rfl⟩
      · exact Clause.exists_scans_settled (h part (List.mem_cons_self ..)) hpart
          (partEnds_textAfter hpart parts)
    refine ⟨(p :: ps, c) :: d, ?_, .cons hmeans hrender hreading⟩
    have hall := hfirst.trans hscan
    rw [textAfter, List.append_assoc]
    rcases show gap before part = [] ∨ gap before part = [' '] by unfold gap; split <;> simp with
      hgap | hgap
    · rw [hgap]
      exact hall
    · rw [hgap]
      exact hall.blank (by decide)

/-- Tokens with the pieces of items are these items. -/
theorem exists_decomposes {tokens : List Token} {parts : List Text}
    {d : List (List (Kind × Text) × Clause)} (h : Reading parts d)
    (htokens : tokens.map piece = (d.map Prod.fst).flatten) :
    ∃ e, Decomposes .doubled tokens e ∧ e.map (fun p => p.2.render) = parts.map .ok := by
  induction d generalizing tokens parts with
  | nil =>
    rw [List.map_eq_nil_iff.1 htokens]
    exact ⟨[], decomposes_nil .doubled, h.render⟩
  | cons p d ih =>
    cases parts with
    | nil => cases h.render
    | cons part parts =>
      have hrender := h.render
      rw [List.map_cons, List.map_cons, List.cons.injEq] at hrender
      rw [List.map_cons, List.flatten_cons] at htokens
      obtain ⟨ts, rest, rfl, hts, hrest⟩ := List.map_eq_append_iff.1 htokens
      have hitem := h.means p (List.mem_cons_self ..) ts hts
      obtain ⟨e, he, heq⟩ := ih ⟨fun q hq => h.means q (List.mem_cons_of_mem _ hq), hrender.2⟩ hrest
      refine ⟨(ts, p.2) :: e, decomposes_cons hitem he, ?_⟩
      rw [List.map_cons, List.map_cons, heq, hrender.1]

/-- **A filter of settled parts is read back from its text.** -/
theorem ofText_text {f : Filter} (h : ∀ part ∈ f.parts, Settled part) :
    ofText .doubled f.text = .ok f := by
  obtain ⟨d, hscan, hreading⟩ := exists_scans_textAfter ['('] h
  rw [← text_eq_textAfter] at hscan
  have htokens := tokenize_of_scans hscan rfl
  exact ofTokens_eq_ok_iff.2 (exists_decomposes hreading htokens)

end QueryFilter.Filter
