/-
  ROUNDING — which numbers are read as a double.

  1. **Integers** — `roundDiv` gives the nearest integer, the even one of two (`nearest_roundDiv`),
     and there is only one such integer (`Nearest.unique`).
  2. **Doubles** — a double covers the numbers between the middles to its neighbours, and the
     middles themselves if its significand is even (`Covers`).  The reader computes a power first
     and a significand from it, which may be carried into the next power (`Rounds`); both steps
     together are the interval (`Rounds.covers`, `Covers.exists_rounds`).
  3. **Decimals** — the two shortcuts for scales that are out of range agree with the interval, so
     that a decimal is read as the double that covers it (`ofDecimal?_eq_some_iff`).

  The interval has no gaps (`Covers.between`): that is what makes a search for decimals possible.
-/
import Mathlib.Algebra.Order.Field.Basic
import Mathlib.Algebra.Order.Field.Power
import Mathlib.Data.Rat.Cast.Order
import Mathlib.Tactic.FieldSimp
import Mathlib.Tactic.Linarith
import Mathlib.Tactic.NormNum
import Mathlib.Tactic.Positivity
import Mathlib.Tactic.Qify
import Mathlib.Tactic.Ring
import QueryFilter.Number.Binary64

namespace QueryFilter.Binary64

/-! ## Rounding to integers -/

/-- The integer nearest to a number; of two that are equally near, the even one. -/
structure Nearest (m : Nat) (r : ℚ) : Prop where
  low : m - 1 / 2 ≤ r
  high : r ≤ m + 1 / 2
  strict : m % 2 = 1 → (m - 1 / 2 : ℚ) < r ∧ r < m + 1 / 2

/-- There is only one. -/
theorem Nearest.unique {m m' : Nat} {r : ℚ} (h : Nearest m r) (h' : Nearest m' r) : m = m' := by
  have hle : ∀ {m m' : Nat}, Nearest m r → Nearest m' r → m' ≤ m := by
    intro m m' h h'
    by_contra hlt
    have hstep : (m : ℚ) + 1 ≤ m' := by exact_mod_cast Nat.lt_of_not_le hlt
    have hlow := h'.low
    have hhigh := h.high
    -- both bounds meet, so that the two are neighbours, and one of them is odd
    have hnext : m' = m + 1 := by
      have : (m' : ℚ) = (m + 1 : Nat) := by push_cast; linarith
      exact_mod_cast this
    rcases Nat.mod_two_eq_zero_or_one m with heven | hodd
    · have := (h'.strict (by omega)).1
      linarith
    · have := (h.strict hodd).2
      linarith
  exact Nat.le_antisymm (hle h' h) (hle h h')

/-- The bounds of a nearest integer without a division. -/
theorem nearest_div_iff {m : Nat} {a d : ℚ} (hd : 0 < d) :
    Nearest m (a / d) ↔ (m - 1 / 2) * d ≤ a ∧ a ≤ (m + 1 / 2) * d ∧
      (m % 2 = 1 → (m - 1 / 2) * d < a ∧ a < (m + 1 / 2) * d) := by
  rw [← le_div_iff₀ hd, ← div_le_iff₀ hd, ← lt_div_iff₀ hd, ← div_lt_iff₀ hd]
  exact ⟨fun h => ⟨h.low, h.high, h.strict⟩, fun ⟨hlow, hhigh, hstrict⟩ => ⟨hlow, hhigh, hstrict⟩⟩

/-- **Division rounds to the nearest integer.** -/
theorem nearest_roundDiv (a : Nat) {d : Nat} (hd : 0 < d) : Nearest (roundDiv a d) (a / d) := by
  have hbounds : 2 * (roundDiv a d * d) ≤ 2 * a + d ∧ 2 * a ≤ 2 * (roundDiv a d * d) + d ∧
      (roundDiv a d % 2 = 1 →
        2 * (roundDiv a d * d) < 2 * a + d ∧ 2 * a < 2 * (roundDiv a d * d) + d) := by
    have hsplit := Nat.div_add_mod' a d
    have hmod := Nat.mod_lt a hd
    unfold roundDiv
    simp only
    split
    · omega
    · rw [Nat.succ_mul (a / d) d]
      omega
  generalize roundDiv a d = m at hbounds ⊢
  obtain ⟨hlow, hhigh, hstrict⟩ := hbounds
  rw [nearest_div_iff (show (0 : ℚ) < d by exact_mod_cast hd)]
  qify at hlow hhigh
  refine ⟨by linarith, by linarith, fun hodd => ?_⟩
  obtain ⟨hlow, hhigh⟩ := hstrict hodd
  qify at hlow hhigh
  exact ⟨by linarith, by linarith⟩

/-! ## Rounding to doubles -/

/-- How far below its significand a double reaches, in units of its last place: half of one, but
    only a quarter if the doubles below it are twice as dense. -/
def reach (x : Binary64) : ℚ := if x.significand = 2 ^ 52 ∧ 0 < x.power then 1 / 4 else 1 / 2

theorem reach_pos (x : Binary64) : 0 < x.reach := by
  unfold reach
  split <;> norm_num

theorem reach_le (x : Binary64) : x.reach ≤ 1 / 2 := by
  unfold reach
  split <;> norm_num

/-- The numbers that are rounded to the magnitude of a double: those between the middles to the
    doubles below and above it, and the middles themselves if the significand is even. -/
structure Covers (x : Binary64) (v : ℚ) : Prop where
  low : (x.significand - x.reach) * 2 ^ x.power ≤ v * unitsPerOne
  high : v * unitsPerOne ≤ (x.significand + 1 / 2) * 2 ^ x.power
  strict : x.significand % 2 = 1 → (x.significand - x.reach) * 2 ^ x.power < v * unitsPerOne ∧
    v * unitsPerOne < (x.significand + 1 / 2) * 2 ^ x.power

/-- **What lies between two numbers that are rounded to a double is rounded to it as well.** -/
theorem Covers.between {x : Binary64} {u v w : ℚ} (hu : x.Covers u) (hw : x.Covers w) (huv : u ≤ v)
    (hvw : v ≤ w) : x.Covers v := by
  have hpos : (0 : ℚ) ≤ unitsPerOne := Nat.cast_nonneg _
  have hlow := mul_le_mul_of_nonneg_right huv hpos
  have hhigh := mul_le_mul_of_nonneg_right hvw hpos
  exact ⟨hu.low.trans hlow, hhigh.trans hw.high,
    fun hodd => ⟨(hu.strict hodd).1.trans_le hlow, hhigh.trans_lt (hw.strict hodd).2⟩⟩

/-- The power is the least one for which the significand has no more than 53 bits. -/
theorem power_eq_iff {q p : Nat} :
    q.log2 - 52 = p ↔ q < 2 ^ (53 + p) ∧ (p = 0 ∨ 2 ^ (52 + p) ≤ q) := by
  rcases Nat.eq_zero_or_pos q with rfl | hq
  · have hpos : ∀ k : Nat, 0 < 2 ^ k := fun k => Nat.pow_pos (by decide)
    have := hpos (53 + p)
    have := hpos (52 + p)
    simp only [Nat.log2_zero]
    omega
  · have hne : q ≠ 0 := Nat.ne_of_gt hq
    rw [← Nat.log2_lt hne, ← Nat.le_log2 hne]
    omega

/-- What `ofRounded?` makes of a significand and a power. -/
theorem ofRounded?_eq_some_iff {negative : Bool} {m p : Nat} {x : Binary64} :
    ofRounded? negative m p = some x ↔ x.negative = negative ∧
      (m = x.significand ∧ p = x.power ∨
        m = 2 ^ 53 ∧ x.significand = 2 ^ 52 ∧ p + 1 = x.power) := by
  obtain ⟨sign, significand, power, hcan⟩ := x
  have hparts : ∀ {m p : Nat}, ofParts? negative m p = some ⟨sign, significand, power, hcan⟩ ↔
      sign = negative ∧ m = significand ∧ p = power := by
    intro m p
    unfold ofParts?
    split
    · simp only [Option.some.injEq, mk.injEq]
      exact ⟨fun ⟨h₁, h₂, h₃⟩ => ⟨h₁.symm, h₂, h₃⟩, fun ⟨h₁, h₂, h₃⟩ => ⟨h₁.symm, h₂, h₃⟩⟩
    · rename_i hnot
      constructor
      · intro h
        cases h
      · rintro ⟨-, rfl, rfl⟩
        exact absurd hcan hnot
  have hlt := hcan.1
  unfold ofRounded?
  simp only
  split <;> rw [hparts]
  all_goals
    apply and_congr_right
    intro _
    omega

/-- How a number of units is rounded to a double: to a significand at a power, or by a carry. -/
structure Rounds (x : Binary64) (units : ℚ) (m p : Nat) : Prop where
  high : units < 2 ^ 53 * 2 ^ p
  low : p = 0 ∨ 2 ^ 52 * 2 ^ p ≤ units
  nearest : Nearest m (units / 2 ^ p)
  parts : m = x.significand ∧ p = x.power ∨ m = 2 ^ 53 ∧ x.significand = 2 ^ 52 ∧ p + 1 = x.power

/-- What `ofRatio?` computes. -/
theorem ofRatio?_eq_some_iff_rounds {negative : Bool} {num den : Nat} (hden : 0 < den)
    {x : Binary64} :
    ofRatio? negative num den = some x ↔
      x.negative = negative ∧ ∃ m p, x.Rounds (num / den * unitsPerOne) m p := by
  have hpos : (0 : ℚ) < den := by exact_mod_cast hden
  have hunits : (num / den * unitsPerOne : ℚ) = (num * unitsPerOne : Nat) / den := by
    push_cast
    ring
  rw [hunits]
  -- the two comparisons with a power of two, on quotients rounded down
  have hlt : ∀ k p : Nat, num * unitsPerOne / den < 2 ^ (k + p) ↔
      ((num * unitsPerOne : Nat) / den : ℚ) < 2 ^ k * 2 ^ p := by
    intro k p
    rw [Nat.div_lt_iff_lt_mul hden, div_lt_iff₀ hpos, ← Nat.cast_lt (α := ℚ), ← pow_add]
    push_cast
    rfl
  have hle : ∀ k p : Nat, 2 ^ (k + p) ≤ num * unitsPerOne / den ↔
      2 ^ k * 2 ^ p ≤ ((num * unitsPerOne : Nat) / den : ℚ) := by
    intro k p
    rw [Nat.le_div_iff_mul_le hden, le_div_iff₀ hpos, ← Nat.cast_le (α := ℚ), ← pow_add]
    push_cast
    rfl
  have hpower : ∀ p : Nat, (num * unitsPerOne / den).log2 - 52 = p ↔
      ((num * unitsPerOne : Nat) / den : ℚ) < 2 ^ 53 * 2 ^ p ∧
        (p = 0 ∨ 2 ^ 52 * 2 ^ p ≤ ((num * unitsPerOne : Nat) / den : ℚ)) := by
    intro p
    rw [power_eq_iff, hlt, hle]
  have hround : ∀ p : Nat, Nearest (roundDiv (num * unitsPerOne) (den * 2 ^ p))
      ((num * unitsPerOne : Nat) / den / 2 ^ p) := by
    intro p
    have hplace : 0 < den * 2 ^ p := Nat.mul_pos hden (Nat.pow_pos (by decide))
    have hnear := nearest_roundDiv (num * unitsPerOne) hplace
    rw [div_div]
    exact_mod_cast hnear
  rw [ofRatio?, ofRounded?_eq_some_iff]
  apply and_congr_right
  intro _
  constructor
  · intro hparts
    exact ⟨_, _, ((hpower _).1 rfl).1, ((hpower _).1 rfl).2, hround _, hparts⟩
  · rintro ⟨m, p, hhigh, hlow, hnear, hparts⟩
    obtain rfl := (hpower p).2 ⟨hhigh, hlow⟩
    rwa [(hround _).unique hnear]

/-- What is rounded to a double is in its interval. -/
theorem Rounds.covers {x : Binary64} {v : ℚ} {m p : Nat} (h : x.Rounds (v * unitsPerOne) m p) :
    x.Covers v := by
  obtain ⟨hhigh, hlow, hnear, hparts⟩ := h
  have hplace : (0 : ℚ) < 2 ^ p := by positivity
  obtain ⟨hmlow, hmhigh, hmstrict⟩ := (nearest_div_iff hplace).1 hnear
  rcases hparts with ⟨rfl, rfl⟩ | ⟨rfl, hm, hp⟩
  · by_cases hedge : x.significand = 2 ^ 52 ∧ 0 < x.power
    · -- the power has been chosen before the significand was rounded
      have hfull := hlow.resolve_left (Nat.ne_of_gt hedge.2)
      refine ⟨?_, hmhigh, fun hodd => ?_⟩
      · rw [reach, if_pos hedge, hedge.1]
        push_cast
        linarith
      · rw [hedge.1] at hodd
        exact absurd hodd (by decide)
    · have hreach : x.reach = 1 / 2 := if_neg hedge
      exact ⟨by rwa [hreach], hmhigh, by rwa [hreach]⟩
  · -- a carry ends at a power of two, and started from half a place below it
    have hreach : x.reach = 1 / 4 := if_pos ⟨hm, by omega⟩
    have hdouble : (2 : ℚ) ^ x.power = 2 ^ p * 2 := by rw [← hp, pow_succ]
    push_cast at hmlow
    refine ⟨?_, ?_, fun hodd => ?_⟩
    · rw [hreach, hm, hdouble]
      push_cast
      linarith
    · rw [hm, hdouble]
      push_cast
      linarith
    · rw [hm] at hodd
      exact absurd hodd (by decide)

/-- What is in the interval of a double is rounded to it. -/
theorem Covers.exists_rounds {x : Binary64} {v : ℚ} (h : x.Covers v) :
    ∃ m p, x.Rounds (v * unitsPerOne) m p := by
  obtain ⟨hlow, hhigh, hstrict⟩ := h
  obtain ⟨hlt, hnorm, -⟩ := x.canonical
  have hplace : (0 : ℚ) < 2 ^ x.power := by positivity
  have hreach : ¬ (x.significand = 2 ^ 52 ∧ 0 < x.power) → x.reach = 1 / 2 := fun hedge =>
    if_neg hedge
  by_cases hfull : x.power = 0 ∨ 2 ^ 52 * 2 ^ x.power ≤ v * unitsPerOne
  · refine ⟨x.significand, x.power, ?_, hfull, ?_, Or.inl ⟨rfl, rfl⟩⟩
    · have hle : (x.significand : ℚ) + 1 ≤ 2 ^ 53 := by exact_mod_cast hlt
      have hmul := mul_le_mul_of_nonneg_right hle hplace.le
      linarith
    · rw [nearest_div_iff hplace]
      by_cases hedge : x.significand = 2 ^ 52 ∧ 0 < x.power
      · have hfull := hfull.resolve_left (Nat.ne_of_gt hedge.2)
        refine ⟨?_, hhigh, fun hodd => ?_⟩
        · rw [hedge.1]
          push_cast
          linarith
        · rw [hedge.1] at hodd
          exact absurd hodd (by decide)
      · rw [hreach hedge] at hlow hstrict
        exact ⟨hlow, hhigh, hstrict⟩
  · -- less than the power of two is rounded to it by a carry from the power below
    obtain ⟨hne, hbelow⟩ := not_or.1 hfull
    have hbelow := not_le.1 hbelow
    have hedge : x.significand = 2 ^ 52 ∧ 0 < x.power := by
      refine ⟨?_, Nat.pos_of_ne_zero hne⟩
      by_contra hmore
      have hge : (2 : ℚ) ^ 52 + 1 ≤ x.significand := by
        have := hnorm.resolve_right hne
        exact_mod_cast (show 2 ^ 52 + 1 ≤ x.significand by omega)
      have hmul := mul_le_mul_of_nonneg_right hge hplace.le
      rw [hreach fun hedge => hmore hedge.1] at hlow
      linarith
    obtain ⟨p, hp⟩ := Nat.exists_eq_succ_of_ne_zero hne
    have hdouble : (2 : ℚ) ^ x.power = 2 ^ p * 2 := by rw [hp, pow_succ]
    have hhalf : (0 : ℚ) < 2 ^ p := by positivity
    rw [show x.reach = 1 / 4 from if_pos hedge, hedge.1, hdouble] at hlow
    rw [hdouble] at hbelow
    push_cast at hlow
    refine ⟨2 ^ 53, p, by linarith, Or.inr (by linarith), ?_, Or.inr ⟨rfl, hedge.1, hp.symm⟩⟩
    rw [nearest_div_iff hhalf]
    push_cast
    exact ⟨by linarith, by linarith, fun hodd => absurd hodd (by decide)⟩

/-- **A ratio is read as the double that covers it.** -/
theorem ofRatio?_eq_some_iff {negative : Bool} {num den : Nat} (hden : 0 < den) {x : Binary64} :
    ofRatio? negative num den = some x ↔ x.negative = negative ∧ x.Covers (num / den) := by
  rw [ofRatio?_eq_some_iff_rounds hden]
  exact and_congr_right fun _ => ⟨fun ⟨_, _, h⟩ => h.covers, fun h => h.exists_rounds⟩

/-! ## Reading decimals -/

theorem unitsPerOne_pos : 0 < unitsPerOne := by
  unfold unitsPerOne
  positivity

theorem cast_unitsPerOne : (unitsPerOne : ℚ) = 2 ^ 1074 := by
  unfold unitsPerOne
  -- for a variable in its place no tactic tries to compute the power
  generalize 1074 = exponent
  push_cast
  rfl

/-- Zero has the least power. -/
theorem eq_zero_iff {x : Binary64} {negative : Bool} :
    zero negative = x ↔ x.negative = negative ∧ x.significand = 0 := by
  obtain ⟨sign, significand, power, hcan⟩ := x
  have hpower : significand = 0 → power = 0 := by
    rintro rfl
    exact hcan.2.1.resolve_left (by decide)
  simp only [zero, mk.injEq]
  exact ⟨fun ⟨h₁, h₂, _⟩ => ⟨h₁.symm, h₂.symm⟩,
    fun ⟨h₁, h₂⟩ => ⟨h₁.symm, h₂.symm, (hpower h₂).symm⟩⟩

/-- **What is less than half a unit is rounded to zero.** -/
theorem covers_iff_of_small {x : Binary64} {v : ℚ} (hv : 0 ≤ v) (hsmall : v * unitsPerOne < 1 / 2) :
    x.Covers v ↔ x.significand = 0 := by
  have hplace : (1 : ℚ) ≤ 2 ^ x.power := one_le_pow₀ (by norm_num)
  constructor
  · intro h
    by_contra hne
    have hm : (1 : ℚ) ≤ x.significand := by exact_mod_cast Nat.pos_of_ne_zero hne
    have hreach := x.reach_le
    have hlow := h.low
    nlinarith
  · intro hm
    have hunits : 0 ≤ v * unitsPerOne := mul_nonneg hv (Nat.cast_nonneg _)
    refine ⟨?_, ?_, fun hodd => ?_⟩
    · have hreach := x.reach_pos
      rw [hm]
      push_cast
      nlinarith
    · rw [hm]
      push_cast
      linarith
    · rw [hm] at hodd
      exact absurd hodd (by decide)

theorem covers_zero_iff {x : Binary64} : x.Covers 0 ↔ x.significand = 0 :=
  covers_iff_of_small le_rfl (by rw [zero_mul]; exact one_half_pos)

/-- What is rounded to a double is below all powers of two that are too large for one. -/
theorem Covers.lt {x : Binary64} {v : ℚ} (h : x.Covers v) : v * unitsPerOne < 2 ^ (53 + 2045) := by
  obtain ⟨hlt, -, hpower⟩ := x.canonical
  have hle : (x.significand : ℚ) + 1 ≤ 2 ^ 53 := by exact_mod_cast hlt
  have hplace : (0 : ℚ) < 2 ^ x.power := by positivity
  calc v * unitsPerOne ≤ (x.significand + 1 / 2) * 2 ^ x.power := h.high
    _ < 2 ^ 53 * 2 ^ x.power := mul_lt_mul_of_pos_right (by linarith) hplace
    _ ≤ 2 ^ 53 * 2 ^ 2045 := by
      exact mul_le_mul_of_nonneg_left (pow_le_pow_right₀ (by norm_num) hpower) (by positivity)
    _ = 2 ^ (53 + 2045) := (pow_add 2 53 2045).symm

/-- Ten has more than three bits. -/
theorem two_pow_le_ten_pow {j k : Nat} (h : j ≤ 3 * k) : (2 : ℚ) ^ j ≤ 10 ^ k := by
  calc (2 : ℚ) ^ j ≤ 2 ^ (3 * k) := pow_le_pow_right₀ (by norm_num) h
    _ = 8 ^ k := by rw [pow_mul]; norm_num
    _ ≤ 10 ^ k := pow_le_pow_left₀ (by norm_num) (by norm_num) k

/-- No double covers a decimal of such a scale: four hundred digits are more than a thousand
    bits. -/
theorem not_covers_of_scale {x : Binary64} {c : Nat} {s : Int} (hc : c ≠ 0) (hs : 400 < s) :
    ¬ x.Covers (c * 10 ^ s) := by
  intro h
  have hone : (1 : ℚ) ≤ c := by exact_mod_cast Nat.pos_of_ne_zero hc
  obtain ⟨k, rfl⟩ := Int.eq_ofNat_of_zero_le (show 0 ≤ s by omega)
  have hbits : (2 : ℚ) ^ 1024 ≤ 10 ^ k := two_pow_le_ten_pow (by omega)
  have hlt := h.lt
  rw [cast_unitsPerOne, zpow_natCast] at hlt
  refine absurd hlt (not_lt.2 ?_)
  calc (2 : ℚ) ^ (53 + 2045) = 2 ^ 1024 * 2 ^ 1074 := by rw [← pow_add]
    _ ≤ 10 ^ k * 2 ^ 1074 := by gcongr
    _ ≤ c * 10 ^ k * 2 ^ 1074 := by
      gcongr
      exact le_mul_of_one_le_left (by positivity) hone

/-- A decimal of such a scale is less than half a unit, whatever its coefficient is. -/
theorem small_of_scale {c : Nat} {s : Int} (hs : s < -(400 + c.log2 : Int)) :
    (c * 10 ^ s : ℚ) * unitsPerOne < 1 / 2 := by
  have hbits : (c : ℚ) < 2 ^ (c.log2 + 1) := by exact_mod_cast Nat.lt_log2_self
  obtain ⟨k, hk, hlog⟩ : ∃ k : Nat, s = -(k : Int) ∧ 401 + c.log2 ≤ k :=
    ⟨(-s).toNat, by omega, by omega⟩
  have hpos : (0 : ℚ) < 10 ^ k := by positivity
  have hten : (2 : ℚ) ^ (c.log2 + 1 + 1074 + 1) ≤ 10 ^ k := two_pow_le_ten_pow (by omega)
  have hunits : (c : ℚ) * 2 ^ 1074 < 2 ^ (c.log2 + 1) * 2 ^ 1074 :=
    mul_lt_mul_of_pos_right hbits (pow_pos two_pos _)
  have hsum : (2 : ℚ) ^ (c.log2 + 1) * 2 ^ 1074 * 2 = 2 ^ (c.log2 + 1 + 1074 + 1) := by
    rw [← pow_add, ← pow_succ]
  rw [cast_unitsPerOne, hk, zpow_neg, zpow_natCast]
  calc (c * (10 ^ k)⁻¹ : ℚ) * 2 ^ 1074 = c * 2 ^ 1074 / 10 ^ k := by
        rw [mul_right_comm, ← div_eq_mul_inv]
    _ < 1 / 2 := by
      rw [div_lt_div_iff₀ hpos two_pos, one_mul]
      exact (mul_lt_mul_of_pos_right hunits two_pos).trans_le (hsum.le.trans hten)

/-- **A decimal is read as the double that covers it.** -/
theorem ofDecimal?_eq_some_iff {negative : Bool} {c : Nat} {s : Int} {x : Binary64} :
    ofDecimal? negative c s = some x ↔ x.negative = negative ∧ x.Covers (c * 10 ^ s) := by
  unfold ofDecimal?
  split
  · rename_i hc
    rw [hc, Nat.cast_zero, zero_mul, covers_zero_iff, Option.some.injEq, eq_zero_iff]
  rename_i hc
  split
  · rename_i hlarge
    constructor
    · intro h
      cases h
    · rintro ⟨-, h⟩
      exact absurd h (not_covers_of_scale hc hlarge)
  split
  · rename_i hsmall
    rw [covers_iff_of_small (by positivity) (small_of_scale hsmall), Option.some.injEq, eq_zero_iff]
  split
  · rename_i hpos
    obtain ⟨k, rfl⟩ := Int.eq_ofNat_of_zero_le hpos
    rw [Int.toNat_natCast, ofRatio?_eq_some_iff Nat.one_pos, zpow_natCast]
    push_cast
    rw [div_one]
  · rename_i hneg
    obtain ⟨k, hk⟩ := Int.eq_ofNat_of_zero_le (show 0 ≤ -s by omega)
    obtain rfl : s = -(k : Int) := by omega
    rw [Int.neg_neg, Int.toNat_natCast, ofRatio?_eq_some_iff (Nat.pow_pos (by decide)), zpow_neg,
      zpow_natCast]
    push_cast
    rw [div_eq_mul_inv]

end QueryFilter.Binary64
