/-
  DECOMPOSITION — a row of tokens is a filter exactly if it falls into items.

  1. **Specification** — `Decomposes policy tokens d`: the tokens are the items of `d`, one behind
     the other, each with the clause that it means.
  2. **Uniqueness** — no item begins another one, since the reader finds either of them; so a row
     decomposes in at most one way (`decomposes_unique`).
  3. **Program = specification** — the parts of a row are the texts of the clauses of its items
     (`partsOf_eq_ok_iff`), one induction along the reading for each direction.
-/
import QueryFilter.Filter.OfText
import QueryFilter.Proofs.Clause.Item

namespace QueryFilter.Filter

open Clause (Item)

variable {policy : QuotePolicy}

/-- The tokens fall into these items with these clauses. -/
def Decomposes (policy : QuotePolicy) (tokens : List Token) (d : List (List Token × Clause)) : Prop :=
  tokens = (d.map Prod.fst).flatten ∧ ∀ p ∈ d, Item policy p.1 p.2

theorem decomposes_nil (policy : QuotePolicy) : Decomposes policy [] [] := ⟨rfl, by simp⟩

theorem decomposes_cons {ts rest : List Token} {c : Clause} {d : List (List Token × Clause)}
    (hitem : Item policy ts c) (h : Decomposes policy rest d) :
    Decomposes policy (ts ++ rest) ((ts, c) :: d) := by
  refine ⟨?_, ?_⟩
  · rw [List.map_cons, List.flatten_cons, ← h.1]
  · intro p hp
    rcases List.mem_cons.1 hp with rfl | hp
    · exact hitem
    · exact h.2 p hp

/-- The first item of a decomposition, and that of what follows. -/
theorem exists_of_decomposes_cons {tokens : List Token} {p : List Token × Clause}
    {d : List (List Token × Clause)} (h : Decomposes policy tokens (p :: d)) :
    ∃ rest, tokens = p.1 ++ rest ∧ Item policy p.1 p.2 ∧ Decomposes policy rest d :=
  ⟨(d.map Prod.fst).flatten, h.1, h.2 p (List.mem_cons_self ..), rfl,
    fun q hq => h.2 q (List.mem_cons_of_mem _ hq)⟩

/-! ## Uniqueness -/

theorem item_ne_nil {ts : List Token} {c : Clause} (h : Item policy ts c) : ts ≠ [] := by
  cases h <;> exact List.cons_ne_nil _ _

/-- **No item begins another one.** -/
theorem item_append_inj {ts ts' rest rest' : List Token} {c c' : Clause} (h : Item policy ts c)
    (h' : Item policy ts' c') (heq : ts ++ rest = ts' ++ rest') :
    ts = ts' ∧ c = c' ∧ rest = rest' := by
  have hread := Clause.read_item h 0 rest
  rw [heq, Clause.read_item h' 0 rest'] at hread
  simp only [Except.ok.injEq, Option.some.injEq, Prod.mk.injEq, Token.Row.mk.injEq] at hread
  obtain ⟨hc, -, hrest⟩ := hread
  subst hrest
  exact ⟨List.append_cancel_right heq, hc.symm, rfl⟩

/-- **A row of tokens decomposes in at most one way.** -/
theorem decomposes_unique {tokens : List Token} {d d' : List (List Token × Clause)}
    (h : Decomposes policy tokens d) (h' : Decomposes policy tokens d') : d = d' := by
  -- the first items begin the same row, so they are the same, and so is what follows them
  induction d generalizing tokens d' with
  | nil =>
    cases d' with
    | nil => rfl
    | cons p' d' =>
      exfalso
      obtain ⟨rest, heq, hitem, -⟩ := exists_of_decomposes_cons h'
      have hnil : p'.1 ++ rest = [] := heq ▸ h.1
      exact item_ne_nil hitem (List.append_eq_nil_iff.1 hnil).1
  | cons p d ih =>
    obtain ⟨rest, heq, hitem, hrest⟩ := exists_of_decomposes_cons h
    cases d' with
    | nil =>
      exfalso
      have hnil : p.1 ++ rest = [] := heq ▸ h'.1
      exact item_ne_nil hitem (List.append_eq_nil_iff.1 hnil).1
    | cons p' d' =>
      obtain ⟨rest', heq', hitem', hrest'⟩ := exists_of_decomposes_cons h'
      obtain ⟨hts, hc, rfl⟩ := item_append_inj hitem hitem' (heq ▸ heq')
      rw [ih hrest hrest', Prod.ext hts hc]

/-! ## The program against the specification -/

theorem next_nil (index : Nat) : next policy ⟨index, []⟩ = .ok none := rfl

/-- An item in front of a row is written next. -/
theorem next_item {ts : List Token} {c : Clause} {part : Text} (h : Item policy ts c)
    (hpart : c.render = .ok part) (index : Nat) (rest : List Token) :
    next policy ⟨index, ts ++ rest⟩ = .ok (some (part, ⟨index + ts.length, rest⟩)) := by
  rw [next, Clause.read_item h]
  simp only [hpart]
  rfl

/-- What is written next is the clause of an item in front of the row. -/
theorem item_of_next {row row' : Token.Row} {part : Text}
    (h : next policy row = .ok (some (part, row'))) :
    ∃ ts c, Item policy ts c ∧ c.render = .ok part ∧ row.tokens = ts ++ row'.tokens := by
  unfold next at h
  split at h
  · cases h
  · cases h
  · rename_i c r hread
    obtain ⟨part', hrender, heq⟩ := map_eq_ok_iff.1 h
    cases heq
    obtain ⟨ts, hitem, hrow⟩ := Clause.item_of_read hread hrender
    exact ⟨ts, c, hitem, hrender, hrow⟩

/-- Only the end of a row has no next clause. -/
theorem tokens_eq_nil_of_next {row : Token.Row} (h : next policy row = .ok none) :
    row.tokens = [] := by
  unfold next at h
  split at h
  · cases h
  · rename_i hread
    exact Clause.tokens_eq_nil_of_read hread
  · obtain ⟨part, -, heq⟩ := map_eq_ok_iff.1 h
    cases heq

/-- One step of the reading: it fails, it ends, or it goes on behind a part. -/
theorem partsOf_of_error {row : Token.Row} {fault : Fault} (h : next policy row = .error fault) :
    partsOf policy row = .error fault := by
  rw [partsOf]
  split
  · rename_i heq; rw [h] at heq; cases heq; rfl
  · rename_i heq; rw [h] at heq; cases heq
  · rename_i heq; rw [h] at heq; cases heq

theorem partsOf_of_none {row : Token.Row} (h : next policy row = .ok none) :
    partsOf policy row = .ok [] := by
  rw [partsOf]
  split
  · rename_i heq; rw [h] at heq; cases heq
  · rfl
  · rename_i heq; rw [h] at heq; cases heq

theorem partsOf_of_some {row row' : Token.Row} {part : Text}
    (h : next policy row = .ok (some (part, row'))) :
    partsOf policy row = (partsOf policy row').map (part :: ·) := by
  rw [partsOf]
  split
  · rename_i heq; rw [h] at heq; cases heq
  · rename_i heq; rw [h] at heq; cases heq
  · rename_i heq; rw [h] at heq; cases heq; rfl

/-- The parts of a row whose items are given. -/
theorem partsOf_of_decomposes {tokens : List Token} {d : List (List Token × Clause)}
    {parts : List Text} (h : Decomposes policy tokens d)
    (hparts : d.map (fun p => p.2.render) = parts.map .ok) (index : Nat) :
    partsOf policy ⟨index, tokens⟩ = .ok parts := by
  induction d generalizing tokens parts index with
  | nil =>
    cases parts with
    | nil =>
      have htokens : tokens = [] := h.1
      rw [htokens]
      exact partsOf_of_none (next_nil index)
    | cons part parts => cases hparts
  | cons p d ih =>
    cases parts with
    | nil => cases hparts
    | cons part parts =>
      rw [List.map_cons, List.map_cons, List.cons.injEq] at hparts
      obtain ⟨rest, rfl, hitem, hrest⟩ := exists_of_decomposes_cons h
      rw [partsOf_of_some (next_item hitem hparts.1 index rest), ih hrest hparts.2]
      rfl

/-- The items of a row whose parts are given. -/
theorem decomposes_of_partsOf {row : Token.Row} {parts : List Text}
    (h : partsOf policy row = .ok parts) :
    ∃ d, Decomposes policy row.tokens d ∧ d.map (fun p => p.2.render) = parts.map .ok := by
  fun_induction partsOf policy row generalizing parts with
  | case1 => cases h
  | case2 row hnext =>
    cases h
    rw [tokens_eq_nil_of_next hnext]
    exact ⟨[], decomposes_nil policy, rfl⟩
  | case3 row part row' hnext ih =>
    obtain ⟨parts', hparts', rfl⟩ := map_eq_ok_iff.1 h
    obtain ⟨d, hd, hrender⟩ := ih hparts'
    obtain ⟨ts, c, hitem, hc, hrow⟩ := item_of_next hnext
    refine ⟨(ts, c) :: d, hrow ▸ decomposes_cons hitem hd, ?_⟩
    rw [List.map_cons, List.map_cons, hrender, hc]

/-- **The parts of a row are the texts of its clauses.** -/
theorem partsOf_eq_ok_iff {row : Token.Row} {parts : List Text} :
    partsOf policy row = .ok parts ↔
      ∃ d, Decomposes policy row.tokens d ∧ d.map (fun p => p.2.render) = parts.map .ok := by
  constructor
  · exact decomposes_of_partsOf
  · rintro ⟨d, hd, hparts⟩
    exact partsOf_of_decomposes hd hparts row.index

theorem ofTokens_eq_ok_iff {tokens : List Token} {f : Filter} :
    ofTokens policy tokens = .ok f ↔
      ∃ d, Decomposes policy tokens d ∧ d.map (fun p => p.2.render) = f.parts.map .ok := by
  rw [ofTokens, map_eq_ok_iff]
  constructor
  · rintro ⟨parts, hparts, rfl⟩
    exact partsOf_eq_ok_iff.1 hparts
  · intro h
    exact ⟨f.parts, partsOf_eq_ok_iff.2 h, rfl⟩

/-- Every decomposition has parts. -/
theorem exists_parts {d : List (List Token × Clause)} (h : ∀ p ∈ d, Item policy p.1 p.2) :
    ∃ parts : List Text, d.map (fun p => p.2.render) = parts.map .ok := by
  induction d with
  | nil => exact ⟨[], rfl⟩
  | cons p d ih =>
    obtain ⟨part, hpart⟩ := Clause.exists_render_item (h p (List.mem_cons_self ..))
    obtain ⟨parts, hparts⟩ := ih fun q hq => h q (List.mem_cons_of_mem _ hq)
    exact ⟨part :: parts, by rw [List.map_cons, List.map_cons, hpart, hparts]⟩

/-- **A row of tokens is a filter exactly if it falls into items.**  It does so in at most one way,
    and the parts of the filter are the texts of the clauses of the items, in order. -/
theorem ofTokens_grammar (policy : QuotePolicy) (tokens : List Token) :
    (∀ d d', Decomposes policy tokens d → Decomposes policy tokens d' → d = d') ∧
    ((∃ f, ofTokens policy tokens = .ok f) ↔ ∃ d, Decomposes policy tokens d) ∧
    ∀ f d, ofTokens policy tokens = .ok f → Decomposes policy tokens d →
      d.map (fun p => p.2.render) = f.parts.map .ok := by
  refine ⟨fun d d' => decomposes_unique, ⟨?_, ?_⟩, ?_⟩
  · rintro ⟨f, hf⟩
    obtain ⟨d, hd, -⟩ := ofTokens_eq_ok_iff.1 hf
    exact ⟨d, hd⟩
  · rintro ⟨d, hd⟩
    obtain ⟨parts, hparts⟩ := exists_parts hd.2
    exact ⟨⟨parts⟩, ofTokens_eq_ok_iff.2 ⟨d, hd, hparts⟩⟩
  · intro f d hf hd
    obtain ⟨d', hd', hparts⟩ := ofTokens_eq_ok_iff.1 hf
    rw [decomposes_unique hd hd']
    exact hparts

end QueryFilter.Filter
