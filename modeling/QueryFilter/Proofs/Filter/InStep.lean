/-
  READING IN STEP — two rows of tokens that are read in the same way.

  1. **Outcomes** — `Agree E R x x'`: both fail, with faults that `E` relates, or both succeed, with
     results that `R` relates.
  2. **Rows** — two tokens are `Interchangeable` for two policies if they have the same kind and
     text, stand for the same value, give agreeing clauses where one token makes a clause, and
     faults that blame them are related.  Two rows are `Aligned` if they begin at the same index and
     their tokens are interchangeable, one by one.
  3. **Readers** — each reader gives agreeing outcomes on aligned rows (`Clause.agree_read`), and so
     do the parts, by induction along the reading (`agree_partsOf`).

  All together: `agree_ofTokens`.
-/
import Mathlib.Data.List.Forall2
import QueryFilter.Proofs.Filter.Decomposition

namespace QueryFilter

/-! ## Outcomes -/

/-- Two outcomes that are related: both failures, or both results. -/
inductive Agree {ε α β : Type} (E : ε → ε → Prop) (R : α → β → Prop) : Except ε α → Except ε β → Prop
  | ok {a : α} {b : β} (result : R a b) : Agree E R (.ok a) (.ok b)
  | error {e e' : ε} (fault : E e e') : Agree E R (.error e) (.error e')

namespace Agree

variable {ε α β α' β' : Type} {E : ε → ε → Prop} {R : α → β → Prop}

/-- Outcomes that are mapped agree on related results. -/
theorem map {x : Except ε α} {y : Except ε β} {f : α → α'} {g : β → β'} {R' : α' → β' → Prop}
    (h : Agree E R x y) (hfg : ∀ a b, R a b → R' (f a) (g b)) : Agree E R' (x.map f) (y.map g) := by
  cases h with
  | ok result => exact ok (hfg _ _ result)
  | error fault => exact error fault

/-- Outcomes that are computed from agreeing ones agree. -/
theorem bind {x : Except ε α} {y : Except ε β} {f : α → Except ε α'} {g : β → Except ε β'}
    {R' : α' → β' → Prop} (h : Agree E R x y) (hfg : ∀ a b, R a b → Agree E R' (f a) (g b)) :
    Agree E R' (x >>= f) (y >>= g) := by
  cases h with
  | ok result => exact hfg _ _ result
  | error fault => exact error fault

/-- An outcome agrees with itself. -/
theorem refl (hE : ∀ e, E e e) (x : Except ε α) : Agree E Eq x x := by
  cases x with
  | ok a => exact ok rfl
  | error e => exact error (hE e)

end Agree

/-! ## Rows -/

/-- Two tokens that are read in the same way. -/
structure Interchangeable (policy policy' : QuotePolicy) (E : ReadFault → ReadFault → Prop)
    (t t' : Token) : Prop where
  kind : t'.kind = t.kind
  text : t'.text = t.text
  value : Clause.value policy' t.text = Clause.value policy t.text
  call : ∀ index, Agree E Eq (Clause.ofCall policy index t) (Clause.ofCall policy' index t')
  lambda : ∀ index, Agree E Eq (Clause.ofLambda policy index t) (Clause.ofLambda policy' index t')
  blame : ∀ cause index, E ⟨cause, index, some t⟩ ⟨cause, index, some t'⟩

section
variable (policy policy' : QuotePolicy) (E : ReadFault → ReadFault → Prop)

/-- Rows from the same index on, with interchangeable tokens. -/
structure Aligned (row row' : Token.Row) : Prop where
  index : row'.index = row.index
  tokens : List.Forall₂ (Interchangeable policy policy' E) row.tokens row'.tokens

/-- The same result, with aligned rows behind it. -/
def Same {α : Type} (p p' : α × Token.Row) : Prop := p'.1 = p.1 ∧ Aligned policy policy' E p.2 p'.2

variable {policy policy' E}

theorem Same.map {α β : Type} {p p' : α × Token.Row} (f : α → β) (h : Same policy policy' E p p') :
    Same policy policy' E (f p.1, p.2) (f p'.1, p'.2) :=
  ⟨congrArg f h.1, h.2⟩

end

/-! ## Readers -/

namespace Clause

variable {policy policy' : QuotePolicy} {E : ReadFault → ReadFault → Prop}
  (hend : ∀ cause index, E ⟨cause, index, none⟩ ⟨cause, index, none⟩)

include hend

theorem agree_values (field : Text) (index : Nat) {ts ts' : List Token}
    (h : List.Forall₂ (Interchangeable policy policy' E) ts ts') :
    Agree E (Same policy policy' E)
      (values policy field index ts) (values policy' field index ts') := by
  induction h generalizing index with
  | nil => exact .error (hend _ _)
  | @cons t t' ts ts' ht hts ih =>
    rw [values, values, ht.kind, ht.text, ht.value]
    split
    · exact .ok ⟨rfl, rfl, hts⟩
    · exact (ih (index + 1)).map fun p p' hp => hp.map (value policy t.text :: ·)
    · exact (ih (index + 1)).map fun p p' hp => hp.map (value policy t.text :: ·)
    · exact ih (index + 1)
    · exact .error (ht.blame _ _)

theorem agree_readMembership (field : Text) {row row' : Token.Row}
    (h : Aligned policy policy' E row row') :
    Agree E (Same policy policy' E) (readMembership policy field row)
      (readMembership policy' field row') := by
  obtain ⟨index, ts⟩ := row
  obtain ⟨index', ts'⟩ := row'
  obtain ⟨rfl, hts⟩ := h
  cases hts with
  | nil => exact .error (hend _ _)
  | cons ht hts =>
    rw [readMembership, readMembership, ht.kind]
    split
    · exact (agree_values hend field _ hts).map fun p p' hp =>
        hp.map fun vs => membership field (.collection .list vs)
    · exact .error (ht.blame _ _)

theorem agree_readComparison (field operator : Text) {row row' : Token.Row}
    (h : Aligned policy policy' E row row') :
    Agree E (Same policy policy' E) (readComparison policy field operator row)
      (readComparison policy' field operator row') := by
  obtain ⟨index, ts⟩ := row
  obtain ⟨index', ts'⟩ := row'
  obtain ⟨rfl, hts⟩ := h
  cases hts with
  | nil => exact .error (hend _ _)
  | cons ht hts =>
    rw [readComparison, readComparison, ht.kind, ht.text, ht.value]
    split
    · exact .ok ⟨rfl, rfl, hts⟩
    · exact .error (ht.blame _ _)

theorem agree_readCondition (field : Text) {row row' : Token.Row}
    (h : Aligned policy policy' E row row') :
    Agree E (Same policy policy' E) (readCondition policy field row)
      (readCondition policy' field row') := by
  obtain ⟨index, ts⟩ := row
  obtain ⟨index', ts'⟩ := row'
  obtain ⟨rfl, hts⟩ := h
  cases hts with
  | nil => exact .error (hend _ _)
  | cons ht hts =>
    rw [readCondition, readCondition, ht.kind, ht.text]
    split
    · exact agree_readMembership hend field ⟨rfl, hts⟩
    · exact agree_readComparison hend field _ ⟨rfl, hts⟩
    · exact .error (ht.blame _ _)

/-- **Aligned rows begin with the same clause**, or with agreeing faults. -/
theorem agree_read {row row' : Token.Row} (h : Aligned policy policy' E row row') :
    Agree E (Option.Rel (Same policy policy' E)) (read policy row) (read policy' row') := by
  obtain ⟨index, ts⟩ := row
  obtain ⟨index', ts'⟩ := row'
  obtain ⟨rfl, hts⟩ := h
  cases hts with
  | nil => exact .ok .none
  | @cons t t' ts ts' ht hts =>
    have hrow : Aligned policy policy' E ⟨index' + 1, ts⟩ ⟨index' + 1, ts'⟩ := ⟨rfl, hts⟩
    rw [read, read, ht.kind, ht.text]
    simp only
    split
    · exact .ok (.some ⟨rfl, hrow⟩)
    · exact .ok (.some ⟨rfl, hrow⟩)
    · exact .ok (.some ⟨rfl, hrow⟩)
    · exact .ok (.some ⟨rfl, hrow⟩)
    · exact .ok (.some ⟨rfl, hrow⟩)
    · exact (ht.call _).map fun c c' hc => .some ⟨hc.symm, hrow⟩
    · exact (ht.lambda _).map fun c c' hc => .some ⟨hc.symm, hrow⟩
    · exact (agree_readCondition hend t.text hrow).map fun p p' hp => .some hp
    all_goals exact .error (ht.blame _ _)

end Clause

namespace Filter

/-- Faults of filters: those of reading as `E` says, all others the same. -/
inductive FaultsAgree (E : ReadFault → ReadFault → Prop) : Fault → Fault → Prop
  | reading {e e' : ReadFault} (fault : E e e') : FaultsAgree E (.reading e) (.reading e')
  | same (fault : Fault) : FaultsAgree E fault fault

variable {policy policy' : QuotePolicy} {E : ReadFault → ReadFault → Prop}
  (hend : ∀ cause index, E ⟨cause, index, none⟩ ⟨cause, index, none⟩)

include hend

theorem agree_next {row row' : Token.Row} (h : Aligned policy policy' E row row') :
    Agree (FaultsAgree E) (Option.Rel (Same policy policy' E))
      (next policy row) (next policy' row') := by
  have hread := Clause.agree_read hend h
  unfold next
  generalize Clause.read policy row = x at hread ⊢
  generalize Clause.read policy' row' = x' at hread ⊢
  cases hread with
  | error fault => exact .error (.reading fault)
  | ok result =>
    cases result with
    | none => exact .ok .none
    | @some p p' hp =>
      obtain ⟨c, r⟩ := p
      obtain ⟨c', r'⟩ := p'
      obtain ⟨rfl, hr⟩ := hp
      exact (Agree.refl FaultsAgree.same c'.render).map fun s s' hs => .some ⟨hs.symm, hr⟩

/-- **Aligned rows have the same parts**, or agreeing faults. -/
theorem agree_partsOf {row row' : Token.Row} (h : Aligned policy policy' E row row') :
    Agree (FaultsAgree E) Eq (partsOf policy row) (partsOf policy' row') := by
  fun_induction partsOf policy row generalizing row' with
  | case1 row fault hnext =>
    have hagree := agree_next hend h
    rw [hnext] at hagree
    generalize hnext' : next policy' row' = x' at hagree
    cases hagree with
    | error hfault =>
      rw [partsOf_of_error hnext']
      exact .error hfault
  | case2 row hnext =>
    have hagree := agree_next hend h
    rw [hnext] at hagree
    generalize hnext' : next policy' row' = x' at hagree
    cases hagree with
    | ok result =>
      cases result
      rw [partsOf_of_none hnext']
      exact .ok rfl
  | case3 row part rest hnext ih =>
    have hagree := agree_next hend h
    rw [hnext] at hagree
    generalize hnext' : next policy' row' = x' at hagree
    cases hagree with
    | ok result =>
      cases result with
      | @some _ p' hp =>
        obtain ⟨part', rest'⟩ := p'
        obtain ⟨rfl, hrest⟩ := hp
        rw [partsOf_of_some hnext']
        exact (ih hrest).map fun ps ps' hps => by rw [hps]

/-- **Interchangeable tokens are the same filter**, or fail with agreeing faults. -/
theorem agree_ofTokens {ts ts' : List Token}
    (h : List.Forall₂ (Interchangeable policy policy' E) ts ts') :
    Agree (FaultsAgree E) Eq (ofTokens policy ts) (ofTokens policy' ts') := by
  rw [ofTokens, ofTokens]
  have hrow : Aligned policy policy' E ⟨0, ts⟩ ⟨0, ts'⟩ := ⟨rfl, h⟩
  exact (agree_partsOf hend hrow).map fun ps ps' hps => by rw [hps]

end Filter

end QueryFilter
