/-
  FIXED WIDTH — numbers whose texts compare as they do.

  Texts are compared character by character from the left.  For digits of different length that is
  not the order of the numbers (`"10"` comes before `"9"`); filled up to one width it is.

  1. **Ranked texts** (`Ranked`) — two texts of one length that compare as two numbers do.  What
     is ranked can be put together: the numbers combine as in a mixed radix, the left one
     counting more (`Ranked.append`).
  2. **Fixed width** — one more place is one more digit at the end (`fixedWidth_succ`), so that by
     induction on the width numbers that fit into it are ranked (`ranked_fixedWidth`).
-/
import QueryFilter.Number.Numeral

namespace QueryFilter.Text

/-! ## Ranked texts -/

/-- Two texts of one length that compare as two numbers do. -/
structure Ranked (s s' : Text) (n n' : Nat) : Prop where
  length_eq : s.length = s'.length
  lt_iff : s < s' ↔ n < n'
  eq_iff : s = s' ↔ n = n'

/-- Behind parts of one length, only equal ones leave the comparison to the rest. -/
theorem append_lt_append_iff {s s' t t' : Text} (h : s.length = s'.length) :
    s ++ t < s' ++ t' ↔ s < s' ∨ s = s' ∧ t < t' := by
  induction s generalizing s' with
  | nil =>
    obtain rfl : s' = [] := List.length_eq_zero_iff.1 h.symm
    simp
  | cons c s ih =>
    cases s' with
    | nil => cases h
    | cons c' s' =>
      have hrest := ih (Nat.succ.inj h)
      rw [List.cons_append, List.cons_append, List.cons_lt_cons_iff, List.cons_lt_cons_iff, hrest,
        List.cons.injEq]
      constructor
      · rintro (hc | ⟨hc, hs | ⟨hs, ht⟩⟩)
        · exact Or.inl (Or.inl hc)
        · exact Or.inl (Or.inr ⟨hc, hs⟩)
        · exact Or.inr ⟨⟨hc, hs⟩, ht⟩
      · rintro ((hc | ⟨hc, hs⟩) | ⟨⟨hc, hs⟩, ht⟩)
        · exact Or.inl hc
        · exact Or.inr ⟨hc, Or.inl hs⟩
        · exact Or.inr ⟨hc, Or.inr ⟨hs, ht⟩⟩

/-- In a mixed radix the left place counts first. -/
theorem mixed_lt_iff {n n' m m' k : Nat} (hm : m < k) (hm' : m' < k) :
    n * k + m < n' * k + m' ↔ n < n' ∨ n = n' ∧ m < m' := by
  have hbelow : ∀ {a b : Nat}, a < b → a * k + k ≤ b * k := fun hab =>
    Nat.succ_mul _ k ▸ Nat.mul_le_mul_right k hab
  rcases Nat.lt_trichotomy n n' with hlt | rfl | hgt
  · have := hbelow hlt
    omega
  · omega
  · have := hbelow hgt
    omega

theorem mixed_eq_iff {n n' m m' k : Nat} (hm : m < k) (hm' : m' < k) :
    n * k + m = n' * k + m' ↔ n = n' ∧ m = m' := by
  have hlt : n * k + m < n' * k + m' ↔ _ := mixed_lt_iff hm hm'
  have hgt : n' * k + m' < n * k + m ↔ _ := mixed_lt_iff hm' hm
  constructor
  · omega
  · rintro ⟨rfl, rfl⟩
    rfl

namespace Ranked

variable {s s' t t' : Text} {n n' m m' : Nat}

/-- Only the order of the numbers counts. -/
theorem congr (h : Ranked s s' n n') (hlt : n < n' ↔ m < m') (heq : n = n' ↔ m = m') :
    Ranked s s' m m' :=
  ⟨h.length_eq, h.lt_iff.trans hlt, h.eq_iff.trans heq⟩

/-- **Ranked texts one after the other are ranked**, the first number counting `k` times as much. -/
theorem append (h : Ranked s s' n n') (h' : Ranked t t' m m') {k : Nat} (hm : m < k)
    (hm' : m' < k) : Ranked (s ++ t) (s' ++ t') (n * k + m) (n' * k + m') := by
  refine ⟨?_, ?_, ?_⟩
  · rw [List.length_append, List.length_append, h.length_eq, h'.length_eq]
  · rw [append_lt_append_iff h.length_eq, h.lt_iff, h.eq_iff, h'.lt_iff, mixed_lt_iff hm hm']
  · rw [mixed_eq_iff hm hm', ← h.eq_iff, ← h'.eq_iff]
    exact ⟨fun hst => List.append_inj hst h.length_eq, fun ⟨hs, ht⟩ => by rw [hs, ht]⟩

/-- A mark in front of both texts does not count. -/
theorem cons (h : Ranked s s' n n') (c : Char) : Ranked (c :: s) (c :: s') n n' where
  length_eq := congrArg Nat.succ h.length_eq
  lt_iff := by
    rw [List.cons_lt_cons_iff, ← h.lt_iff]
    exact ⟨fun hc => hc.elim (fun hlt => absurd hlt (Char.lt_irrefl c)) And.right,
      fun hs => Or.inr ⟨rfl, hs⟩⟩
  eq_iff := by rw [← h.eq_iff, List.cons.injEq, and_iff_right rfl]

end Ranked

/-! ## Fixed width -/

/-- One more place is one more digit at the end. -/
theorem fixedWidth_succ {k : Nat} (hk : 0 < k) (n : Nat) :
    fixedWidth (k + 1) n = fixedWidth k (n / 10) ++ [Nat.digitChar (n % 10)] := by
  unfold fixedWidth zeroPad
  rcases Nat.lt_or_ge n 10 with hn | hn
  · -- a single digit has a zero before it, and the zero is what is left of it
    obtain ⟨k, rfl⟩ : ∃ k', k = k' + 1 := ⟨k - 1, by omega⟩
    rw [Nat.toDigits_of_lt_base hn, Nat.div_eq_of_lt hn, Nat.mod_eq_of_lt hn,
      Nat.toDigits_of_lt_base (by decide)]
    show List.replicate (k + 1) '0' ++ [_] = List.replicate k '0' ++ ['0'] ++ [_]
    rw [List.replicate_succ']
  · rw [Nat.toDigits_of_base_le (by decide) hn, List.length_append, List.length_singleton,
      Nat.add_sub_add_right, List.append_assoc]

theorem fixedWidth_one {n : Nat} (hn : n < 10) : fixedWidth 1 n = [Nat.digitChar n] := by
  rw [fixedWidth, Nat.toDigits_of_lt_base hn]
  rfl

/-- A number that fits is as long as its width says. -/
theorem length_fixedWidth {k n : Nat} (hk : 0 < k) (hn : n < 10 ^ k) :
    (fixedWidth k n).length = k := by
  have hlen := (Nat.length_toDigits_le_iff (b := 10) (by decide) hk).2 hn
  rw [fixedWidth, zeroPad, List.length_append, List.length_replicate]
  omega

/-- Single digits are ranked. -/
theorem ranked_digitChar {n n' : Nat} (hn : n < 10) (hn' : n' < 10) :
    Ranked [Nat.digitChar n] [Nat.digitChar n'] n n' := by
  have hall : ∀ a b : Fin 10, (Nat.digitChar a < Nat.digitChar b ↔ a.1 < b.1) ∧
      (Nat.digitChar a = Nat.digitChar b ↔ a.1 = b.1) := by decide
  obtain ⟨hlt, heq⟩ := hall ⟨n, hn⟩ ⟨n', hn'⟩
  refine ⟨rfl, ?_, ?_⟩
  · rw [List.cons_lt_cons_iff, hlt]
    simp
  · rw [List.cons.injEq, heq, and_iff_left rfl]

/-- **Numbers that fit into a width are ranked.** -/
theorem ranked_fixedWidth {k n n' : Nat} (hk : 0 < k) (hn : n < 10 ^ k) (hn' : n' < 10 ^ k) :
    Ranked (fixedWidth k n) (fixedWidth k n') n n' := by
  induction k generalizing n n' with
  | zero => exact absurd hk (Nat.lt_irrefl 0)
  | succ k ih =>
    rcases Nat.eq_zero_or_pos k with rfl | hpos
    · rw [fixedWidth_one hn, fixedWidth_one hn']
      exact ranked_digitChar hn hn'
    · have hdiv : ∀ {m : Nat}, m < 10 ^ (k + 1) → m / 10 < 10 ^ k := fun hm =>
        Nat.div_lt_of_lt_mul (by rwa [Nat.pow_succ, Nat.mul_comm] at hm)
      have hmod : ∀ m : Nat, m % 10 < 10 := fun m => Nat.mod_lt m (by decide)
      have hjoined := (ih hpos (hdiv hn) (hdiv hn')).append (ranked_digitChar (hmod n) (hmod n'))
        (hmod n) (hmod n')
      rw [fixedWidth_succ hpos, fixedWidth_succ hpos]
      rwa [Nat.div_add_mod', Nat.div_add_mod'] at hjoined

end QueryFilter.Text
