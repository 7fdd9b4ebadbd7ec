/-
  DECIMALS AROUND A DOUBLE — between two candidates there is no decimal of as many digits.

  1. **Magnitude** — the exponent of the first digit, from the number of digits of the double or of
     its inverse (`magnitude_bounds`).
  2. **Candidates** — the two multiples of the place of the last digit around the double, the nearer
     one known by rounding (`exists_surround`).
  3. **Grid** — a decimal of `j` digits is such a multiple, or too small to matter (`on_grid`), so
     that it lies on or beyond one of the candidates (`Surround.apart`).  Since the interval of a
     double has no gaps, a candidate is read as the double if any decimal of `j` digits is
     (`Surround.covers_near_or_far`), and with seventeen digits the nearer one always is
     (`Surround.covers_near`).
  4. **Gaps** — both candidates together are one place away from the double, the nearer one at most
     half of it (`Surround.gap_near_le`), and what lies beyond a candidate is farther away
     (`Surround.exists_beyond`).
-/
import QueryFilter.Proofs.Number.ReadBack
import QueryFilter.Proofs.Number.Rounding

namespace QueryFilter.Binary64

/-- The magnitude of a double. -/
def size (x : Binary64) : ℚ := x.units / unitsPerOne

theorem size_mul (x : Binary64) : x.size * unitsPerOne = x.significand * 2 ^ x.power := by
  have hone : (unitsPerOne : ℚ) ≠ 0 := by
    rw [cast_unitsPerOne]
    positivity
  rw [size, div_mul_cancel₀ _ hone, units]
  push_cast
  rfl

/-- A double covers itself. -/
theorem covers_size (x : Binary64) : x.Covers x.size := by
  have hplace : (0 : ℚ) < 2 ^ x.power := by positivity
  have hreach : 0 < x.reach := by
    unfold reach
    split <;> norm_num
  have hlow : (x.significand - x.reach) * 2 ^ x.power < x.size * unitsPerOne := by
    rw [size_mul]
    exact mul_lt_mul_of_pos_right (by linarith) hplace
  have hhigh : x.size * unitsPerOne < (x.significand + 1 / 2) * 2 ^ x.power := by
    rw [size_mul]
    exact mul_lt_mul_of_pos_right (by linarith) hplace
  exact ⟨hlow.le, hhigh.le, fun _ => ⟨hlow, hhigh⟩⟩

/-! ## Magnitude -/

/-- The number of digits bounds a number on both sides. -/
theorem toDigits_bounds {n : Nat} (hn : 0 < n) :
    10 ^ ((Nat.toDigits 10 n).length - 1) ≤ n ∧ n < 10 ^ (Nat.toDigits 10 n).length := by
  have hpos : 0 < (Nat.toDigits 10 n).length := List.length_pos_iff.2 Nat.toDigits_ne_nil
  refine ⟨?_, (Nat.length_toDigits_le_iff (by decide) hpos).1 (Nat.le_refl _)⟩
  rcases Nat.eq_zero_or_pos ((Nat.toDigits 10 n).length - 1) with hzero | hmore
  · rw [hzero]
    exact hn
  · by_contra hlt
    have := (Nat.length_toDigits_le_iff (b := 10) (by decide) hmore).2 (Nat.lt_of_not_le hlt)
    omega

/-- **The magnitude is the exponent of the first digit.** -/
theorem magnitude_bounds {x : Binary64} (hx : x.significand ≠ 0) :
    10 ^ x.magnitude ≤ x.size ∧ x.size < 10 ^ (x.magnitude + 1) := by
  have hunits : 0 < x.units := Nat.pos_of_ne_zero (x.units_ne_zero hx)
  have hone := unitsPerOne_pos
  have hposOne : (0 : ℚ) < unitsPerOne := by exact_mod_cast hone
  have hposUnits : (0 : ℚ) < x.units := by exact_mod_cast hunits
  unfold magnitude size
  split
  · rename_i hge
    have hq : 0 < x.units / unitsPerOne := Nat.div_pos hge hone
    obtain ⟨hlow, hhigh⟩ := toDigits_bounds hq
    have hpos : 0 < (Nat.toDigits 10 (x.units / unitsPerOne)).length :=
      List.length_pos_iff.2 Nat.toDigits_ne_nil
    generalize (Nat.toDigits 10 (x.units / unitsPerOne)).length = k at hlow hhigh hpos ⊢
    obtain ⟨k, rfl⟩ : ∃ k', k = k' + 1 := ⟨k - 1, by omega⟩
    rw [Nat.add_sub_cancel, Nat.le_div_iff_mul_le hone] at hlow
    rw [Nat.div_lt_iff_lt_mul hone] at hhigh
    have hexp : ((k + 1 : Nat) : Int) - 1 = (k : Int) := by omega
    rw [hexp, zpow_natCast, show (k : Int) + 1 = ((k + 1 : Nat) : Int) by omega, zpow_natCast,
      le_div_iff₀ hposOne, div_lt_iff₀ hposOne]
    exact ⟨by exact_mod_cast hlow, by exact_mod_cast hhigh⟩
  · rename_i hlt
    have hq : 0 < (unitsPerOne - 1) / x.units := Nat.div_pos (by omega) hunits
    obtain ⟨hlow, hhigh⟩ := toDigits_bounds hq
    have hpos : 0 < (Nat.toDigits 10 ((unitsPerOne - 1) / x.units)).length :=
      List.length_pos_iff.2 Nat.toDigits_ne_nil
    generalize (Nat.toDigits 10 ((unitsPerOne - 1) / x.units)).length = k at hlow hhigh hpos ⊢
    obtain ⟨k, rfl⟩ : ∃ k', k = k' + 1 := ⟨k - 1, by omega⟩
    rw [Nat.add_sub_cancel, Nat.le_div_iff_mul_le hunits] at hlow
    rw [Nat.div_lt_iff_lt_mul hunits] at hhigh
    have hten : ∀ j : Nat, (0 : ℚ) < 10 ^ j := fun j => by positivity
    have hexp : -((k + 1 : Nat) : Int) + 1 = -(k : Int) := by omega
    rw [hexp, zpow_neg, zpow_neg, zpow_natCast, zpow_natCast, le_div_iff₀ hposOne,
      div_lt_iff₀ hposOne, inv_mul_le_iff₀ (hten _), lt_inv_mul_iff₀ (hten _)]
    constructor
    · exact_mod_cast (show unitsPerOne ≤ 10 ^ (k + 1) * x.units by omega)
    · exact_mod_cast (show 10 ^ k * x.units < unitsPerOne by omega)

/-! ## Decimals around a double -/

/-- The scale of the decimals with `n` digits around a double. -/
def scaleOf (x : Binary64) (n : Nat) : Int := x.magnitude + 1 - n

theorem unit_pos (s : Int) : (0 : ℚ) < 10 ^ s := by positivity

/-- Two decimals next to each other with the double between them, and which of them is nearer. -/
structure Surround (x : Binary64) (s : Int) (low near far : Nat) : Prop where
  below : low * 10 ^ s ≤ x.size
  above : x.size < (low + 1 : Nat) * 10 ^ s
  nearest : Nearest near (x.size / 10 ^ s)
  order : near = low ∧ far = low + 1 ∨ near = low + 1 ∧ far = low

theorem exists_surround (x : Binary64) (s : Int) :
    ∃ low near far, x.around s = [near, far] ∧ x.Surround s low near far := by
  have hden : 0 < unitsPerOne * 10 ^ s.toNat :=
    Nat.mul_pos unitsPerOne_pos (Nat.pow_pos (by decide))
  -- one of the two powers of ten is one, and the other makes the scale
  have hratio : ((x.units * 10 ^ (-s).toNat : Nat) : ℚ) / ((unitsPerOne * 10 ^ s.toNat : Nat) : ℚ) =
      x.size / 10 ^ s := by
    unfold size
    rcases Int.le_total 0 s with hs | hs
    · obtain ⟨k, rfl⟩ := Int.eq_ofNat_of_zero_le hs
      rw [Int.toNat_natCast, Int.toNat_neg_natCast, zpow_natCast, div_div]
      push_cast
      rw [mul_one]
    · obtain ⟨k, hk⟩ := Int.eq_ofNat_of_zero_le (show 0 ≤ -s by omega)
      obtain rfl : s = -(k : Int) := by omega
      rw [Int.neg_neg, Int.toNat_natCast, Int.toNat_neg_natCast, zpow_neg, zpow_natCast,
        div_inv_eq_mul]
      push_cast
      rw [mul_one, div_mul_eq_mul_div]
  have hnear := nearest_roundDiv (x.units * 10 ^ (-s).toNat) hden
  rw [hratio] at hnear
  have hbelow : ((x.units * 10 ^ (-s).toNat / (unitsPerOne * 10 ^ s.toNat) : Nat) : ℚ) * 10 ^ s ≤
      x.size := by
    rw [← le_div_iff₀ (unit_pos s), ← hratio, le_div_iff₀ (by exact_mod_cast hden)]
    exact_mod_cast Nat.div_mul_le_self _ _
  have habove : x.size <
      ((x.units * 10 ^ (-s).toNat / (unitsPerOne * 10 ^ s.toNat) + 1 : Nat) : ℚ) * 10 ^ s := by
    rw [← div_lt_iff₀ (unit_pos s), ← hratio, div_lt_iff₀ (by exact_mod_cast hden)]
    exact_mod_cast (Nat.div_lt_iff_lt_mul hden).1 (Nat.lt_succ_self _)
  unfold around
  simp only
  split
  · rename_i heq
    rw [heq] at hnear
    exact ⟨_, _, _, rfl, hbelow, habove, hnear, Or.inl ⟨rfl, rfl⟩⟩
  · rename_i hne
    unfold roundDiv at hne hnear
    simp only at hne hnear
    split at hnear
    · rename_i hdown
      rw [if_pos hdown] at hne
      exact absurd rfl hne
    · exact ⟨_, _, _, rfl, hbelow, habove, hnear, Or.inr ⟨rfl, rfl⟩⟩

/-- Ten to a number of digits moves the scale by them. -/
theorem pow_mul_unit (k : Nat) (s : Int) : (10 : ℚ) ^ k * 10 ^ s = 10 ^ ((k : Int) + s) := by
  rw [zpow_add₀ (by norm_num), zpow_natCast]

/-- A decimal of few digits is on the grid of the candidates, or below the first digit of the
    double. -/
theorem on_grid (x : Binary64) {j c : Nat} (s : Int) (hc : c < 10 ^ j) :
    (∃ n : Nat, (c * 10 ^ s : ℚ) = n * 10 ^ x.scaleOf j ∧ c ∣ n) ∨
      (c * 10 ^ s : ℚ) < 10 ^ x.magnitude := by
  rcases lt_or_ge s (x.scaleOf j) with hlt | hle
  · right
    have hscale : (j : Int) + s ≤ x.magnitude := by
      unfold scaleOf at hlt
      omega
    calc (c * 10 ^ s : ℚ) < 10 ^ j * 10 ^ s :=
          mul_lt_mul_of_pos_right (by exact_mod_cast hc) (unit_pos s)
      _ = 10 ^ ((j : Int) + s) := pow_mul_unit j s
      _ ≤ 10 ^ x.magnitude := zpow_le_zpow_right₀ (by norm_num) hscale
  · obtain ⟨k, hk⟩ := Int.eq_ofNat_of_zero_le (Int.sub_nonneg.2 hle)
    refine Or.inl ⟨c * 10 ^ k, ?_, Nat.dvd_mul_right c _⟩
    have hs : s = k + x.scaleOf j := by omega
    rw [hs, ← pow_mul_unit k (x.scaleOf j)]
    push_cast
    ring

namespace Surround

variable {x : Binary64} {j low near far : Nat}

/-- The decimals of `j` digits around a double have `j` digits. -/
theorem low_bounds (hx : x.significand ≠ 0) (hj : 1 ≤ j)
    (h : x.Surround (x.scaleOf j) low near far) :
    (10 : ℚ) ^ x.magnitude ≤ low * 10 ^ x.scaleOf j ∧ low < 10 ^ j := by
  obtain ⟨hsize, hsize'⟩ := magnitude_bounds hx
  have hpos := unit_pos (x.scaleOf j)
  constructor
  · have hfirst : (10 : ℚ) ^ (j - 1) * 10 ^ x.scaleOf j = 10 ^ x.magnitude := by
      rw [pow_mul_unit,
        show ((j - 1 : Nat) : Int) + x.scaleOf j = x.magnitude by unfold scaleOf; omega]
    have hlt := hfirst.le.trans_lt (hsize.trans_lt h.above)
    have hlow : 10 ^ (j - 1) < low + 1 := by exact_mod_cast lt_of_mul_lt_mul_right hlt hpos.le
    rw [← hfirst]
    exact mul_le_mul_of_nonneg_right (by exact_mod_cast Nat.le_of_lt_succ hlow) hpos.le
  · have hnext : (10 : ℚ) ^ (x.magnitude + 1) = 10 ^ j * 10 ^ x.scaleOf j := by
      rw [pow_mul_unit, show (j : Int) + x.scaleOf j = x.magnitude + 1 by unfold scaleOf; omega]
    have hlt := (h.below.trans_lt hsize').trans_le hnext.le
    exact_mod_cast lt_of_mul_lt_mul_right hlt hpos.le

/-- **No decimal of `j` digits lies between the two candidates of `j` digits.** -/
theorem apart (hx : x.significand ≠ 0) (hj : 1 ≤ j) (h : x.Surround (x.scaleOf j) low near far)
    {c : Nat} (s : Int) (hc : c < 10 ^ j) : (c * 10 ^ s : ℚ) ≤ low * 10 ^ x.scaleOf j ∨
      ((low + 1 : Nat) * 10 ^ x.scaleOf j : ℚ) ≤ c * 10 ^ s := by
  have hpos := unit_pos (x.scaleOf j)
  rcases x.on_grid s hc with ⟨n, hn, -⟩ | hbelow
  · rw [hn]
    rcases Nat.lt_or_ge low n with hlt | hge
    · exact Or.inr (mul_le_mul_of_nonneg_right (by exact_mod_cast hlt) hpos.le)
    · exact Or.inl (mul_le_mul_of_nonneg_right (by exact_mod_cast hge) hpos.le)
  · exact Or.inl (hbelow.le.trans (h.low_bounds hx hj).1)

/-- **If some decimal of `j` digits is read as the double, one of the candidates is.** -/
theorem covers_near_or_far (hx : x.significand ≠ 0) (hj : 1 ≤ j)
    (h : x.Surround (x.scaleOf j) low near far) {c : Nat} {s : Int} (hc : c < 10 ^ j)
    (hcov : x.Covers (c * 10 ^ s)) :
    x.Covers (near * 10 ^ x.scaleOf j) ∨ x.Covers (far * 10 ^ x.scaleOf j) := by
  have hlow_or : x.Covers (low * 10 ^ x.scaleOf j) ∨
      x.Covers ((low + 1 : Nat) * 10 ^ x.scaleOf j) := by
    rcases h.apart hx hj s hc with hle | hge
    · exact Or.inl (hcov.between x.covers_size hle h.below)
    · exact Or.inr (x.covers_size.between hcov h.above.le hge)
  rcases h.order with ⟨rfl, rfl⟩ | ⟨rfl, rfl⟩
  · exact hlow_or
  · exact hlow_or.symm

/-- **Seventeen digits suffice**: the nearer candidate is then less than half a place away. -/
theorem covers_near (hx : x.significand ≠ 0) (h : x.Surround (x.scaleOf 17) low near far) :
    x.Covers (near * 10 ^ x.scaleOf 17) := by
  obtain ⟨hlt, -, -⟩ := x.canonical
  have hunit := unit_pos (x.scaleOf 17)
  have hone : (0 : ℚ) < unitsPerOne := by exact_mod_cast unitsPerOne_pos
  have hplace : (0 : ℚ) < 2 ^ x.power := by positivity
  have hfirst : (10 : ℚ) ^ 16 * 10 ^ x.scaleOf 17 = 10 ^ x.magnitude := by
    rw [pow_mul_unit, show ((16 : Nat) : Int) + x.scaleOf 17 = x.magnitude by unfold scaleOf; omega]
  have hsize := hfirst.le.trans (magnitude_bounds hx).1
  obtain ⟨hlow, hhigh, -⟩ := (nearest_div_iff hunit).1 h.nearest
  -- everything in units of the double, where it is a whole number of places
  have hmul := mul_le_mul_of_nonneg_right hsize hone.le
  have hmlow := mul_le_mul_of_nonneg_right hlow hone.le
  have hmhigh := mul_le_mul_of_nonneg_right hhigh hone.le
  rw [size_mul] at hmul hmlow hmhigh
  have hwidth : (10 : ℚ) ^ x.scaleOf 17 * unitsPerOne < 2 * x.reach * 2 ^ x.power := by
    unfold reach
    split
    · rename_i hedge
      rw [hedge.1] at hmul
      push_cast at hmul
      linarith
    · have hm : (x.significand : ℚ) * 2 ^ x.power ≤ 2 ^ 53 * 2 ^ x.power :=
        mul_le_mul_of_nonneg_right (by exact_mod_cast hlt.le) hplace.le
      linarith
  have hreach := x.reach_le
  have hlow' : (x.significand - x.reach) * 2 ^ x.power <
      near * 10 ^ x.scaleOf 17 * unitsPerOne := by
    linarith
  have hhigh' : (near : ℚ) * 10 ^ x.scaleOf 17 * unitsPerOne <
      (x.significand + 1 / 2) * 2 ^ x.power := by
    nlinarith
  exact ⟨hlow'.le, hhigh'.le, fun _ => ⟨hlow', hhigh'⟩⟩

end Surround

/-! ## Gaps -/

/-- How far a decimal is from the magnitude of a double. -/
def gap (x : Binary64) (c : Nat) (s : Int) : ℚ := |c * 10 ^ s - x.size|

namespace Surround

variable {x : Binary64} {s : Int} {low near far : Nat}

/-- The double lies between the two candidates. -/
theorem gap_low (h : x.Surround s low near far) : x.gap low s = x.size - low * 10 ^ s := by
  rw [gap, abs_sub_comm, abs_of_nonneg (sub_nonneg.2 h.below)]

theorem gap_high (h : x.Surround s low near far) :
    x.gap (low + 1) s = (low + 1) * 10 ^ s - x.size := by
  rw [gap, abs_of_nonneg (sub_nonneg.2 h.above.le)]
  push_cast
  rfl

/-- The gaps to the two candidates are one place together. -/
theorem gap_near_add_far (h : x.Surround s low near far) : x.gap near s + x.gap far s = 10 ^ s := by
  have hlow := h.gap_low
  have hhigh := h.gap_high
  rcases h.order with ⟨rfl, rfl⟩ | ⟨rfl, rfl⟩ <;> linarith

/-- The nearer one is at most half a place away, and less if it is odd. -/
theorem gap_near_le (h : x.Surround s low near far) :
    2 * x.gap near s ≤ 10 ^ s ∧ (near % 2 = 1 → 2 * x.gap near s < 10 ^ s) := by
  obtain ⟨hlow, hhigh, hstrict⟩ := (nearest_div_iff (unit_pos s)).1 h.nearest
  constructor
  · have hle : x.gap near s ≤ 10 ^ s / 2 := abs_le.2 ⟨by linarith, by linarith⟩
    linarith
  · intro hodd
    obtain ⟨hlow, hhigh⟩ := hstrict hodd
    have hlt : x.gap near s < 10 ^ s / 2 := abs_lt.2 ⟨by linarith, by linarith⟩
    linarith

/-- **A decimal beyond the candidates is beyond one of them**, which is read as the double if it
    is. -/
theorem exists_beyond (h : x.Surround s low near far) {c' : Nat} {s' : Int}
    (hapart : (c' * 10 ^ s' : ℚ) ≤ low * 10 ^ s ∨ ((low + 1 : Nat) * 10 ^ s : ℚ) ≤ c' * 10 ^ s')
    (hcov : x.Covers (c' * 10 ^ s')) :
    ∃ c, (c = near ∨ c = far) ∧ x.Covers (c * 10 ^ s) ∧ x.gap c s ≤ x.gap c' s' ∧
      (x.gap c s = x.gap c' s' → (c' * 10 ^ s' : ℚ) = c * 10 ^ s) := by
  have hself := x.covers_size
  have hlow := h.gap_low
  have hhigh := h.gap_high
  have habove := h.above
  have hmem : (low = near ∨ low = far) ∧ (low + 1 = near ∨ low + 1 = far) := by
    rcases h.order with ⟨rfl, rfl⟩ | ⟨rfl, rfl⟩ <;> simp
  rcases hapart with hle | hge
  · have hgap : x.gap c' s' = x.size - c' * 10 ^ s' := by
      rw [gap, abs_sub_comm, abs_of_nonneg (by linarith [h.below])]
    refine ⟨low, hmem.1, hcov.between hself hle h.below, ?_, fun heq => ?_⟩ <;> linarith
  · have hgap : x.gap c' s' = c' * 10 ^ s' - x.size := by
      rw [gap, abs_of_nonneg (by linarith)]
    refine ⟨low + 1, hmem.2, hself.between hcov habove.le hge, ?_, fun heq => ?_⟩ <;>
      push_cast at hge ⊢ <;> linarith

end Surround

end QueryFilter.Binary64
