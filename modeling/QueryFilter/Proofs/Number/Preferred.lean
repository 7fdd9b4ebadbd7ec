/-
  THE PREFERRED DECIMAL — which number a double is written as.

  1. **Specification** — of all decimals that are read as a double, those with the fewest digits; of
     these the nearest; of two that are equally near the even one (`Preferred`).
  2. **Search** — a candidate reads back exactly if its decimal is read as the double
     (`readsBack_layOut_iff`), so that the first text found is a candidate of the least possible
     number of digits (`exists_chosen`).
  3. **Choice** — no decimal of as many digits is nearer than the chosen candidate, and a tie goes
     to the even one (`Chosen.gap_le`).  The carry into a power of ten, which has fewer digits than
     it was tried with, needs an argument of its own: it can only happen with one digit, and there
     is no tie then (`not_tie_of_one_digit`).
  4. **Result** — the text is a numeral of the preferred decimal, and there is only one such number
     (`exists_numeral_preferred`).  Up to fifteen digits every decimal is preferred, as long as the
     double has all its bits (`Covers.eq_of_fifteen`).
-/
import Mathlib.Data.Nat.Prime.Basic
import QueryFilter.Proofs.Number.Around
import QueryFilter.Proofs.Number.LayoutValue

namespace QueryFilter.Binary64

/-! ## The specification -/

/-- The decimal `c · 10 ^ s`, with the sign of the double, is read as the double. -/
def Reads (x : Binary64) (c : Nat) (s : Int) : Prop := ofDecimal? x.negative c s = some x

/-- The decimal `c · 10 ^ s` of at most `k` digits stands for the double: it is read as the double,
    no decimal that is has fewer digits, none of `k` digits is nearer, and of two that are equally
    near it is the even one. -/
structure Preferred (x : Binary64) (k c : Nat) (s : Int) : Prop where
  reads : x.Reads c s
  digits : c < 10 ^ k
  shortest : ∀ {j c' : Nat} {s' : Int}, x.Reads c' s' → c' < 10 ^ j → k ≤ j
  nearest : ∀ {c' : Nat} {s' : Int}, x.Reads c' s' → c' < 10 ^ k → x.gap c s ≤ x.gap c' s'
  even : ∀ {c' : Nat} {s' : Int}, x.Reads c' s' → c' < 10 ^ k → x.gap c s = x.gap c' s' →
    (c' * 10 ^ s' : ℚ) = c * 10 ^ s ∨ c % 2 = 0

/-! ## Search -/

theorem reads_iff {x : Binary64} {c : Nat} {s : Int} : x.Reads c s ↔ x.Covers (c * 10 ^ s) := by
  rw [Reads, ofDecimal?_eq_some_iff, and_iff_right rfl]

/-- **A numeral is read as the double that covers it.** -/
theorem numeral_double_eq_finite_iff {n : Numeral} {x : Binary64} :
    n.double = .finite x ↔ x.negative = n.negative ∧ x.Covers n.size := by
  rw [Numeral.size, ← ofDecimal?_eq_some_iff, Numeral.double]
  cases ofDecimal? n.negative n.coefficient n.scale <;> simp

/-- A decimal that is read as a double other than zero is not zero. -/
theorem Covers.ne_zero {x : Binary64} (hx : x.significand ≠ 0) {c : Nat} {s : Int}
    (h : x.Covers (c * 10 ^ s)) : c ≠ 0 := by
  rintro rfl
  rw [Nat.cast_zero, zero_mul] at h
  exact hx (covers_zero_iff.1 h)

/-- A candidate reads back if its decimal is one that is read as the double. -/
theorem readsBack_layOut_iff {x : Binary64} {c : Nat} (hc : c ≠ 0) (s : Int) :
    x.ReadsBack (Integer.sign x.negative ++ layOut .double c s) ↔ x.Covers (c * 10 ^ s) := by
  obtain ⟨n, hread, hwhole, hneg, hsize⟩ := read?_layOut x.negative hc s
  rw [ReadsBack, Double.read?, hread, ← hsize]
  simp only [Option.bind_some, hwhole, Bool.false_eq_true, if_false, Option.some.injEq]
  rw [numeral_double_eq_finite_iff, hneg, and_iff_right rfl]

/-- The candidate of `j` digits that the text of a double is made from. -/
structure Chosen (x : Binary64) (j low near far c : Nat) : Prop where
  length : 1 ≤ j
  surround : x.Surround (x.scaleOf j) low near far
  covers : x.Covers (c * 10 ^ x.scaleOf j)
  order : c = near ∨ c = far ∧ ¬ x.Covers (near * 10 ^ x.scaleOf j)
  shortest : ∀ {i c' : Nat} {s' : Int}, x.Covers (c' * 10 ^ s') → c' < 10 ^ i → j ≤ i

/-- The text of a candidate with `j` digits. -/
def candidate (x : Binary64) (j c : Nat) : Text :=
  Integer.sign x.negative ++ layOut .double c (x.scaleOf j)

/-- What is found among the candidates of `j` digits. -/
theorem find?_candidatesOfLength {x : Binary64} (hx : x.significand ≠ 0) {j : Nat} (hj : 1 ≤ j) :
    (∃ low near far c, (x.candidatesOfLength j).find? (x.ReadsBack ·) = some (x.candidate j c) ∧
      x.Surround (x.scaleOf j) low near far ∧ x.Covers (c * 10 ^ x.scaleOf j) ∧
      (c = near ∨ c = far ∧ ¬ x.Covers (near * 10 ^ x.scaleOf j))) ∨
    (x.candidatesOfLength j).find? (x.ReadsBack ·) = none ∧ j ≠ 17 ∧
      ∀ {c : Nat} {s : Int}, c < 10 ^ j → ¬ x.Covers (c * 10 ^ s) := by
  obtain ⟨low, near, far, haround, h⟩ := x.exists_surround (x.scaleOf j)
  have hlist : x.candidatesOfLength j = [x.candidate j near, x.candidate j far] := by
    have hmap : x.candidatesOfLength j = (x.around (x.scaleOf j)).map (x.candidate j) := rfl
    rw [hmap, haround, List.map_cons, List.map_cons, List.map_nil]
  have hlow : low ≠ 0 := by
    rintro rfl
    have hfirst := (h.low_bounds hx hj).1
    rw [Nat.cast_zero, zero_mul] at hfirst
    exact absurd hfirst (not_le.2 (unit_pos _))
  have hnear : near ≠ 0 ∧ far ≠ 0 := by
    rcases h.order with ⟨rfl, rfl⟩ | ⟨rfl, rfl⟩ <;> omega
  have hback : ∀ {c : Nat}, c ≠ 0 →
      (x.ReadsBack (x.candidate j c) ↔ x.Covers (c * 10 ^ x.scaleOf j)) :=
    fun hc => readsBack_layOut_iff hc _
  rw [hlist, List.find?_cons, List.find?_cons]
  by_cases hcn : x.Covers (near * 10 ^ x.scaleOf j)
  · left
    refine ⟨low, near, far, near, ?_, h, hcn, Or.inl rfl⟩
    simp only [decide_eq_true ((hback hnear.1).2 hcn)]
  · by_cases hcf : x.Covers (far * 10 ^ x.scaleOf j)
    · left
      refine ⟨low, near, far, far, ?_, h, hcf, Or.inr ⟨rfl, hcn⟩⟩
      simp only [decide_eq_true ((hback hnear.2).2 hcf),
        decide_eq_false (fun hr => hcn ((hback hnear.1).1 hr))]
    · right
      refine ⟨?_, ?_, fun hc hcov => ?_⟩
      · simp only [decide_eq_false (fun hr => hcf ((hback hnear.2).1 hr)),
          decide_eq_false (fun hr => hcn ((hback hnear.1).1 hr)), List.find?_nil]
      · rintro rfl
        exact hcn (h.covers_near hx)
      · exact (h.covers_near_or_far hx hj hc hcov).elim hcn hcf

/-- **The text of a double is a candidate of the least possible number of digits.** -/
theorem exists_chosen {x : Binary64} (hx : x.significand ≠ 0) :
    ∃ j low near far c, x.Chosen j low near far c ∧ x.text = x.candidate j c := by
  have hfind : x.candidates.find? (x.ReadsBack ·) =
      (List.range 17).findSome? fun n => (x.candidatesOfLength (n + 1)).find? (x.ReadsBack ·) := by
    rw [candidates, if_neg hx, List.find?_flatMap]
  have hsome : ∃ t, x.candidates.find? (x.ReadsBack ·) = some t := by
    rw [← Option.isSome_iff_exists, hfind, List.findSome?_isSome_iff]
    refine ⟨16, List.mem_range.2 (by decide), ?_⟩
    rcases find?_candidatesOfLength hx (j := 17) (by decide) with ⟨_, _, _, c, hc, -⟩ | ⟨-, hne, -⟩
    · rw [hc]
      rfl
    · exact absurd rfl hne
  obtain ⟨t, ht⟩ := hsome
  have htext : x.text = t := by rw [text, ht, Option.getD_some]
  rw [hfind, List.findSome?_eq_some_iff] at ht
  obtain ⟨before, n, after, hsplit, hn, hbefore⟩ := ht
  have hrange : ∀ i < n, i ∈ before := by
    intro i hi
    have hsorted := hsplit ▸ List.pairwise_lt_range (n := 17)
    have hn17 : n < 17 :=
      List.mem_range.1 (hsplit ▸ List.mem_append_right _ (List.mem_cons_self ..))
    have hmem : i ∈ before ++ n :: after := hsplit ▸ List.mem_range.2 (Nat.lt_trans hi hn17)
    rcases List.mem_append.1 hmem with hin | hin
    · exact hin
    · rcases List.mem_cons.1 hin with rfl | hin
      · exact absurd hi (Nat.lt_irrefl i)
      · have hgt := (List.pairwise_cons.1 (List.pairwise_append.1 hsorted).2.1).1 i hin
        omega
  rcases find?_candidatesOfLength hx (j := n + 1) (by omega) with
    ⟨low, near, far, c, hc, hsurround, hcov, horder⟩ | ⟨hnone, -⟩
  · refine ⟨n + 1, low, near, far, c, ⟨by omega, hsurround, hcov, horder, ?_⟩, ?_⟩
    · intro i c' s' hcov' hc'
      by_contra hlt
      rcases Nat.eq_zero_or_pos i with rfl | hpos
      · exact hcov'.ne_zero hx (Nat.lt_one_iff.1 hc')
      · have hfound := hbefore (i - 1) (hrange _ (by omega))
        rw [Nat.sub_add_cancel hpos] at hfound
        rcases find?_candidatesOfLength hx hpos with ⟨_, _, _, _, hsome, -⟩ | ⟨-, -, hnone⟩
        · rw [hfound] at hsome
          cases hsome
        · exact hnone hc' hcov'
    · rw [htext, ← Option.some.inj (hc.symm.trans hn)]
  · rw [hnone] at hn
    cases hn

/-! ## Choice -/

namespace Chosen

variable {x : Binary64} {j low near far c : Nat}

/-- **No decimal of as many digits that is read as the double is nearer**, and one that is as near
    is the same, or it is the other candidate, and then the chosen one is even. -/
theorem gap_le (hx : x.significand ≠ 0) (h : x.Chosen j low near far c) {c' : Nat} {s' : Int}
    (hcov : x.Covers (c' * 10 ^ s')) (hc' : c' < 10 ^ j) :
    x.gap c (x.scaleOf j) ≤ x.gap c' s' ∧ (x.gap c (x.scaleOf j) = x.gap c' s' →
      (c' * 10 ^ s' : ℚ) = c * 10 ^ x.scaleOf j ∨
      c = near ∧ c % 2 = 0 ∧ (c' * 10 ^ s' : ℚ) = far * 10 ^ x.scaleOf j ∧
        2 * x.size = (2 * low + 1) * 10 ^ x.scaleOf j) := by
  have hsum := h.surround.gap_near_add_far
  obtain ⟨hhalf, hodd⟩ := h.surround.gap_near_le
  obtain ⟨b, hb, hbcov, hle, heq⟩ :=
    h.surround.exists_beyond (h.surround.apart hx h.length s' hc') hcov
  rcases h.order with rfl | ⟨rfl, hnot⟩
  · rcases hb with rfl | rfl
    · exact ⟨hle, fun hgap => Or.inl (heq hgap)⟩
    · refine ⟨by linarith, fun hgap => Or.inr ⟨rfl, ?_, heq (by linarith), ?_⟩⟩
      · by_contra hne
        have := hodd (by omega)
        linarith
      · -- both gaps are half a place
        have hlow := h.surround.gap_low
        have hhigh := h.surround.gap_high
        rcases h.surround.order with ⟨rfl, rfl⟩ | ⟨rfl, rfl⟩ <;> linarith
  · rcases hb with rfl | rfl
    · exact absurd hbcov hnot
    · exact ⟨hle, fun hgap => Or.inl (heq hgap)⟩

end Chosen

/-- **One digit is never a tie**: half of nineteen places is no whole number of units. -/
theorem not_tie_of_one_digit {x : Binary64}
    (hcov : x.Covers ((10 : Nat) * 10 ^ x.magnitude)) :
    2 * x.size ≠ (2 * (9 : Nat) + 1) * 10 ^ x.magnitude := by
  intro htie
  have hhigh := hcov.high
  have hsize := x.size_mul
  have hone : (1 : ℚ) < unitsPerOne := by
    rw [cast_unitsPerOne]
    exact one_lt_pow₀ (by norm_num) (by norm_num)
  have hplace : (0 : ℚ) < 2 ^ x.power := by positivity
  have hten := unit_pos x.magnitude
  push_cast at hhigh htie
  -- the double has no more than nine units, so that its places are units
  have hunits : 2 * (x.significand * 2 ^ x.power : ℚ) = 19 * (10 ^ x.magnitude * unitsPerOne) := by
    calc 2 * (x.significand * 2 ^ x.power : ℚ) = 2 * x.size * unitsPerOne := by rw [← hsize]; ring
      _ = 19 * (10 ^ x.magnitude * unitsPerOne) := by rw [htie]; ring
  have hm : x.significand ≤ 9 := by
    have hle : (x.significand : ℚ) * 2 ^ x.power ≤ 19 / 2 * 2 ^ x.power := by linarith
    have hlt : (x.significand : ℚ) < (10 : Nat) := by
      have := le_of_mul_le_mul_right hle hplace
      push_cast
      linarith
    have : x.significand < 10 := by exact_mod_cast hlt
    omega
  have hmcast : (x.significand : ℚ) ≤ 9 := by exact_mod_cast hm
  have hpower : x.power = 0 := x.canonical.2.1.resolve_left (by omega)
  rw [hpower, pow_zero, mul_one] at hunits
  -- from one on the double is too large, and below one five divides no power of two
  generalize x.magnitude = e at hunits
  rcases lt_or_ge e 0 with hneg | hpos
  · obtain ⟨k, rfl⟩ : ∃ k : Nat, e = -((k + 1 : Nat) : Int) := ⟨(-e).toNat - 1, by omega⟩
    have hpow : (0 : ℚ) < 10 ^ (k + 1) := by positivity
    have hcast : (2 * x.significand * 10 ^ (k + 1) : ℚ) = 19 * unitsPerOne := by
      rw [hunits, zpow_neg, zpow_natCast]
      field_simp
    have hnat : 2 * x.significand * 10 ^ (k + 1) = 19 * unitsPerOne := by exact_mod_cast hcast
    have hfive : 5 ∣ 19 * unitsPerOne := by
      rw [← hnat, pow_succ]
      exact Dvd.dvd.mul_left (Dvd.dvd.mul_left (by decide) _) _
    rcases (Nat.Prime.dvd_mul Nat.prime_five).1 hfive with h | h
    · exact absurd h (by decide)
    · unfold unitsPerOne at h
      generalize 1074 = exponent at h
      exact absurd (Nat.Prime.dvd_of_dvd_pow Nat.prime_five h) (by decide)
  · have hlarge : (1 : ℚ) ≤ 10 ^ e * unitsPerOne :=
      one_le_mul_of_one_le_of_one_le (one_le_zpow₀ (by norm_num) hpos) hone.le
    linarith

namespace Chosen

variable {x : Binary64} {j low near far c : Nat}

/-- A candidate has no more digits than it should, but for a carry into the next power of ten. -/
theorem le_pow (hx : x.significand ≠ 0) (h : x.Chosen j low near far c) : c ≤ 10 ^ j := by
  have hlow := (h.surround.low_bounds hx h.length).2
  have hmem : c = near ∨ c = far := h.order.imp_right And.left
  rcases h.surround.order with ⟨rfl, rfl⟩ | ⟨rfl, rfl⟩ <;> rcases hmem with rfl | rfl <;> omega

/-- **What a double is written as is the decimal that stands for it.** -/
theorem exists_preferred (hx : x.significand ≠ 0) (h : x.Chosen j low near far c) :
    ∃ (c₀ : Nat) (s₀ : Int), x.Preferred j c₀ s₀ ∧ (c₀ * 10 ^ s₀ : ℚ) = c * 10 ^ x.scaleOf j := by
  have hshortest : ∀ {i c' : Nat} {s' : Int}, x.Reads c' s' → c' < 10 ^ i → j ≤ i :=
    fun hreads hc' => h.shortest (reads_iff.1 hreads) hc'
  rcases Nat.lt_or_eq_of_le (h.le_pow hx) with hlt | heq
  · refine ⟨c, x.scaleOf j, ⟨reads_iff.2 h.covers, hlt, hshortest, ?_, ?_⟩, rfl⟩
    · intro c' s' hreads hc'
      exact (h.gap_le hx (reads_iff.1 hreads) hc').1
    · intro c' s' hreads hc' hgap
      exact ((h.gap_le hx (reads_iff.1 hreads) hc').2 hgap).imp_right fun htie => htie.2.1
  · -- a power of ten has one digit
    have hvalue : ((1 : Nat) * 10 ^ ((j : Int) + x.scaleOf j) : ℚ) = c * 10 ^ x.scaleOf j := by
      rw [← pow_mul_unit, heq]
      push_cast
      ring
    have hcov : x.Covers ((1 : Nat) * 10 ^ ((j : Int) + x.scaleOf j)) := hvalue ▸ h.covers
    obtain rfl : j = 1 := Nat.le_antisymm (h.shortest hcov (by decide)) h.length
    have hgap : x.gap 1 (((1 : Nat) : Int) + x.scaleOf 1) = x.gap c (x.scaleOf 1) := by
      rw [gap, gap, hvalue]
    refine ⟨1, _, ⟨reads_iff.2 hcov, by decide, hshortest, ?_, ?_⟩, hvalue⟩
    · intro c' s' hreads hc'
      rw [hgap]
      exact (h.gap_le hx (reads_iff.1 hreads) hc').1
    · intro c' s' hreads hc' heven
      rw [hgap] at heven
      left
      rw [hvalue]
      rcases (h.gap_le hx (reads_iff.1 hreads) hc').2 heven with hsame | ⟨hnear, -, -, htie⟩
      · exact hsame
      · have hlow := (h.surround.low_bounds hx h.length).2
        obtain rfl : low = 9 := by
          rcases h.surround.order with ⟨hn, -⟩ | ⟨hn, -⟩ <;> omega
        have hcov := h.covers
        rw [heq] at hcov
        rw [show x.scaleOf 1 = x.magnitude by unfold scaleOf; omega] at hcov htie
        exact absurd htie (not_tie_of_one_digit hcov)

/-- **Only one number stands for a double.** -/
theorem preferred_unique (hx : x.significand ≠ 0) (h : x.Chosen j low near far c) {k c' : Nat}
    {s' : Int} (h' : x.Preferred k c' s') : (c' * 10 ^ s' : ℚ) = c * 10 ^ x.scaleOf j := by
  obtain ⟨c₀, s₀, h₀, hvalue⟩ := h.exists_preferred hx
  obtain rfl : k = j :=
    Nat.le_antisymm (h'.shortest h₀.reads h₀.digits) (h₀.shortest h'.reads h'.digits)
  have hgap₀ : x.gap c₀ s₀ = x.gap c (x.scaleOf k) := by rw [gap, gap, hvalue]
  have hgap : x.gap c' s' = x.gap c₀ s₀ :=
    le_antisymm (h'.nearest h₀.reads h₀.digits) (h₀.nearest h'.reads h'.digits)
  rcases h'.even h₀.reads h₀.digits hgap with hsame | heven
  · rw [← hsame, hvalue]
  · rcases (h.gap_le hx (reads_iff.1 h'.reads) h'.digits).2 (hgap₀ ▸ hgap.symm) with
      hsame | ⟨rfl, hceven, hfar, -⟩
    · exact hsame
    · -- the two candidates are neighbours, so that they are not both even
      have hpos := unit_pos (x.scaleOf k)
      rcases x.on_grid s' h'.digits with ⟨n, hn, hdvd⟩ | hbelow
      · have hnfar : n = far := by
          have : (n : ℚ) = far := mul_right_cancel₀ hpos.ne' (hn.symm.trans hfar)
          exact_mod_cast this
        have hfareven : far % 2 = 0 := by
          rw [← hnfar]
          exact Nat.mod_eq_zero_of_dvd ((Nat.dvd_of_mod_eq_zero heven).trans hdvd)
        rcases h.surround.order with ⟨rfl, rfl⟩ | ⟨rfl, rfl⟩ <;> omega
      · have hfirst := (h.surround.low_bounds hx h.length).1
        have hle : (low : ℚ) * 10 ^ x.scaleOf k ≤ far * 10 ^ x.scaleOf k := by
          refine mul_le_mul_of_nonneg_right ?_ hpos.le
          rcases h.surround.order with ⟨rfl, rfl⟩ | ⟨rfl, rfl⟩ <;> push_cast <;> linarith
        linarith

end Chosen

/-! ## All doubles -/

/-- Zero stands for itself, without any significant digit. -/
theorem preferred_zero (negative : Bool) : (zero negative).Preferred 0 0 0 := by
  have hreads : (zero negative).Reads 0 0 := rfl
  have hsize : (zero negative).size = 0 := by
    rw [size, units, zero, Nat.zero_mul, Nat.cast_zero, zero_div]
  refine ⟨hreads, by decide, fun _ _ => Nat.zero_le _, fun _ _ => ?_, fun _ _ _ => Or.inr rfl⟩
  rw [gap, hsize, Nat.cast_zero, zero_mul, sub_zero, abs_zero]
  exact abs_nonneg _

/-- **The text of a double is a numeral whose value is the one number that stands for the
    double.** -/
theorem exists_numeral_preferred (x : Binary64) :
    ∃ m, Numeral.read? x.text = some m ∧ m.isWhole = false ∧ m.negative = x.negative ∧
      (∃ (k c : Nat) (s : Int), x.Preferred k c s ∧ m.size = c * 10 ^ s) ∧
      ∀ (k c : Nat) (s : Int), x.Preferred k c s → m.size = c * 10 ^ s := by
  by_cases hx : x.significand = 0
  · obtain ⟨negative, rfl⟩ : ∃ negative, x = zero negative := ⟨_, (eq_zero_iff.2 ⟨rfl, hx⟩).symm⟩
    have hread : Numeral.read? (zero negative).text = some ⟨negative, [0], some [0], none⟩ := by
      cases negative <;> decide
    have hzero : Numeral.size ⟨negative, [0], some [0], none⟩ = 0 := by
      rw [Numeral.size, show Numeral.coefficient ⟨negative, [0], some [0], none⟩ = 0 from rfl,
        Nat.cast_zero, zero_mul]
    refine ⟨_, hread, rfl, rfl, ⟨0, 0, 0, preferred_zero negative, by rw [hzero]; simp⟩, ?_⟩
    intro k c s h
    obtain rfl : k = 0 := Nat.le_zero.1 (h.shortest (preferred_zero negative).reads Nat.one_pos)
    obtain rfl : c = 0 := Nat.lt_one_iff.1 h.digits
    rw [hzero, Nat.cast_zero, zero_mul]
  · obtain ⟨j, low, near, far, c, h, htext⟩ := exists_chosen hx
    obtain ⟨m, hread, hwhole, hneg, hsize⟩ :=
      read?_layOut x.negative (h.covers.ne_zero hx) (x.scaleOf j)
    obtain ⟨c₀, s₀, h₀, hvalue⟩ := h.exists_preferred hx
    refine ⟨m, by rw [htext]; exact hread, hwhole, hneg,
      ⟨j, c₀, s₀, h₀, hsize.trans hvalue.symm⟩, ?_⟩
    intro k c' s' h'
    rw [hsize, h.preferred_unique hx h']

/-- Different decimals of at most `k` digits differ by more than the `k`-th part of a tenth
    power. -/
theorem lt_mul_sub {k c c' : Nat} {s s' : Int} (hc : c < 10 ^ k) (hc' : c' < 10 ^ k)
    (hlt : (c * 10 ^ s : ℚ) < c' * 10 ^ s') :
    (c * 10 ^ s : ℚ) < 10 ^ k * (c' * 10 ^ s' - c * 10 ^ s) := by
  have hstep : ∀ {n n' : Nat} {s : Int}, (n * 10 ^ s : ℚ) < n' * 10 ^ s →
      (10 : ℚ) ^ s ≤ n' * 10 ^ s - n * 10 ^ s := by
    intro n n' s h
    have hn : n + 1 ≤ n' := by exact_mod_cast lt_of_mul_lt_mul_right h (unit_pos s).le
    have hle : ((n : ℚ) + 1) * 10 ^ s ≤ n' * 10 ^ s :=
      mul_le_mul_of_nonneg_right (by exact_mod_cast hn) (unit_pos s).le
    linarith
  have hbelow : ∀ {n : Nat} (s : Int), n < 10 ^ k → (n * 10 ^ s : ℚ) < 10 ^ k * 10 ^ s :=
    fun s hn => mul_lt_mul_of_pos_right (by exact_mod_cast hn) (unit_pos s)
  have hpow : (0 : ℚ) ≤ 10 ^ k := by positivity
  -- the decimal with the larger scale is a multiple of the other one's last place
  have hmul : ∀ (n j : Nat) (s : Int), (n * 10 ^ ((j : Int) + s) : ℚ) =
      (n * 10 ^ j : Nat) * 10 ^ s := by
    intro n j s
    rw [← pow_mul_unit]
    push_cast
    ring
  rcases Int.le_total s s' with hle | hle
  · obtain ⟨j, hj⟩ := Int.eq_ofNat_of_zero_le (Int.sub_nonneg.2 hle)
    obtain rfl : s' = j + s := by omega
    rw [hmul] at hlt ⊢
    exact (hbelow s hc).trans_le (mul_le_mul_of_nonneg_left (hstep hlt) hpow)
  · obtain ⟨j, hj⟩ := Int.eq_ofNat_of_zero_le (Int.sub_nonneg.2 hle)
    obtain rfl : s = j + s' := by omega
    have hlt' := hlt.trans (hbelow s' hc')
    rw [hmul] at hlt hlt' ⊢
    exact hlt'.trans_le (mul_le_mul_of_nonneg_left (hstep hlt) hpow)

/-- **Fifteen digits are not too many**: two decimals of at most fifteen digits are never read as
    the same double, as long as it has all its bits. -/
theorem Covers.eq_of_fifteen {x : Binary64} (hx : 2 ^ 52 ≤ x.significand) {c c' : Nat} {s s' : Int}
    (hc : c < 10 ^ 15) (hc' : c' < 10 ^ 15) (h : x.Covers (c * 10 ^ s))
    (h' : x.Covers (c' * 10 ^ s')) : (c * 10 ^ s : ℚ) = c' * 10 ^ s' := by
  have hnot : ∀ {c c' : Nat} {s s' : Int}, c < 10 ^ 15 → c' < 10 ^ 15 → x.Covers (c * 10 ^ s) →
      x.Covers (c' * 10 ^ s') → ¬ (c * 10 ^ s : ℚ) < c' * 10 ^ s' := by
    intro c c' s s' hc hc' h h' hlt
    have hfar := lt_mul_sub hc hc' hlt
    have hlow := h.low
    have hhigh := h'.high
    generalize (c * 10 ^ s : ℚ) = v at *
    generalize (c' * 10 ^ s' : ℚ) = v' at *
    have hone : (0 : ℚ) < unitsPerOne := by exact_mod_cast unitsPerOne_pos
    have hplace : (0 : ℚ) < 2 ^ x.power := by positivity
    have hreach := mul_le_mul_of_nonneg_right x.reach_le hplace.le
    have hbits : (2 ^ 52 : ℚ) * 2 ^ x.power ≤ x.significand * 2 ^ x.power :=
      mul_le_mul_of_nonneg_right (by exact_mod_cast hx) hplace.le
    have hmul := mul_lt_mul_of_pos_right hfar hone
    -- both are within a place of the double, which is large against it
    have hwidth : (v' - v) * unitsPerOne ≤ 2 ^ x.power := by linarith
    linarith
  exact le_antisymm (not_lt.1 (hnot hc' hc h' h)) (not_lt.1 (hnot hc hc' h h'))

end QueryFilter.Binary64
