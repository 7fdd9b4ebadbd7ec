/-
  PRECISION — which numbers keep their value when they are read and written.

  A numeral without point and exponent is read as an integer of any size, up to a limit on
  its digits, and any other one as the nearest double.  What is beyond the limit, or out
  of range, stays as it is.

  1. **Specification** — a number is kept if it is whole, or out of range, or the preferred decimal
     of its double (`Numeral.Kept`).
  2. **Integers** — the value of a whole numeral is its integer (`value_of_isWhole`), whose digits
     are written (`exists_write_whole`).
  3. **Doubles** — what is written is the preferred decimal of the double, whatever the numeral was
     (`exists_write_double`).

  All together: `Argument.write_read_number`.
-/
import QueryFilter.Fault
import QueryFilter.Proofs.Literal.ReadWrite
import QueryFilter.Proofs.Number.Preferred

namespace QueryFilter

/-! ## The specification -/

namespace Numeral

/-- A number that no rounding changes: a whole one, one out of the range of doubles, or the decimal
    that stands for its double. -/
def Kept (n : Numeral) : Prop :=
  n.isWhole = true ∨ ∀ x, n.double = .finite x →
    ∃ (k c : Nat) (s : Int), x.Preferred k c s ∧ n.size = c * 10 ^ s

/-- A number with at most fifteen digits, other than zeros at its ends, whose double has all its
    bits. -/
def Short (n : Numeral) (x : Binary64) : Prop :=
  2 ^ 52 ≤ x.significand ∧ ∃ (c : Nat) (s : Int), c < 10 ^ 15 ∧ n.size = c * 10 ^ s

/-! ## Values -/

/-- Without point and exponent the value is the integer. -/
theorem value_of_isWhole {n : Numeral} (h : n.isWhole = true) : n.value = n.integer := by
  obtain ⟨negative, whole, fraction, exponent⟩ := n
  simp only [isWhole, Bool.and_eq_true, Option.isNone_iff_eq_none] at h
  obtain ⟨rfl, rfl⟩ := h
  cases negative <;> simp [value, size, integer, coefficient, scale]

/-- With the same sign only the size counts. -/
theorem value_eq_iff {m n : Numeral} (h : m.negative = n.negative) :
    m.value = n.value ↔ m.size = n.size := by
  unfold value
  rw [h]
  split
  · exact neg_inj
  · exact Iff.rfl

end Numeral

namespace Literal

/-! ## Integers -/

/-- **A whole number keeps its value.** -/
theorem exists_write_whole (policy : QuotePolicy) {t : Text} {n : Numeral}
    (hn : Numeral.read? t = some n) (hwhole : n.isWhole = true) :
    ∃ w m, (read policy t).write = .ok w ∧ Numeral.read? w = some m ∧ m.value = n.value := by
  by_cases hlen : n.whole.length ≤ Integer.digitLimit
  · refine ⟨Integer.numeral n.integer, _, write_read_whole policy hn hwhole hlen,
      Numeral.read?_numeral n.integer, ?_⟩
    rw [Numeral.value_of_isWhole hwhole, Numeral.value_of_isWhole rfl,
      Numeral.integer_decimalDigits]
  · have hv : ofNumeral? n = none := by rw [ofNumeral?, if_pos hwhole, if_neg hlen]
    exact ⟨t, n, write_of_ofNumeral?_eq_none policy hn hv, hn, rfl⟩

/-! ## Doubles -/

/-- **A double is written as its preferred decimal**, which is read as the same double.
    That is the value of the numeral that was read only if it is the preferred one itself,
    as every short one is. -/
theorem exists_write_double (policy : QuotePolicy) {t : Text} {n : Numeral} {x : Binary64}
    (hn : Numeral.read? t = some n) (hwhole : n.isWhole = false) (hx : n.double = .finite x) :
    ∃ w m, (read policy t).write = .ok w ∧ Numeral.read? w = some m ∧
      read policy t = .double (.finite x) ∧ read policy w = .double (.finite x) ∧
      (∃ (k c : Nat) (s : Int), x.Preferred k c s ∧ m.size = c * 10 ^ s) ∧
      (m.value = n.value ↔ ∃ (k c : Nat) (s : Int), x.Preferred k c s ∧ n.size = c * 10 ^ s) ∧
      (n.coefficient = 0 ∨ n.Short x → m.value = n.value) := by
  obtain ⟨m, hm, -, hneg, ⟨k, c, s, hpref, hsize⟩, hunique⟩ := x.exists_numeral_preferred
  obtain ⟨hsign, hcov⟩ := Binary64.numeral_double_eq_finite_iff.1 hx
  have hread : read policy t = .double (.finite x) :=
    read_of_ofNumeral? policy hn (by simp [ofNumeral?, hwhole, hx])
  have hvalue := Numeral.value_eq_iff (hneg.trans hsign)
  refine ⟨x.text, m, by rw [hread]; rfl, hm, hread, read_text policy x,
    ⟨k, c, s, hpref, hsize⟩, ?_, ?_⟩
  · rw [hvalue]
    constructor
    · intro heq
      exact ⟨k, c, s, hpref, heq ▸ hsize⟩
    · rintro ⟨k', c', s', hpref', hsize'⟩
      rw [hsize', hunique k' c' s' hpref']
  · rw [hvalue]
    rintro (hzero | ⟨hbits, c', s', hshort, hsize'⟩)
    · -- a zero is read as a zero, and that is its own decimal
      have hnone : n.size = 0 := by rw [Numeral.size, hzero, Nat.cast_zero, zero_mul]
      rw [hnone] at hcov ⊢
      have hxzero := Binary64.covers_zero_iff.1 hcov
      obtain ⟨negative, rfl⟩ : ∃ negative, x = Binary64.zero negative :=
        ⟨_, (Binary64.eq_zero_iff.2 ⟨rfl, hxzero⟩).symm⟩
      rw [hunique 0 0 0 (Binary64.preferred_zero negative), Nat.cast_zero, zero_mul]
    · -- the preferred decimal has no more digits, and fifteen tell two decimals apart
      rw [hsize'] at hcov ⊢
      rw [hsize]
      have hk := hpref.shortest (Binary64.reads_iff.2 hcov) hshort
      have hdigits : c < 10 ^ 15 :=
        Nat.lt_of_lt_of_le hpref.digits (Nat.pow_le_pow_right (by decide) hk)
      exact Binary64.Covers.eq_of_fifteen hbits hdigits hshort
        (Binary64.reads_iff.1 hpref.reads) hcov

end Literal

/-! ## All together -/

/-- **Reading and writing a number changes it only by rounding it to a double.**  For each
    numeral there is a text, and that text is a numeral again.  It denotes the same number
    exactly if the number is kept; beyond the limits it is the same text; a number that is
    rounded is written as the preferred decimal of its double, which is read as the same double;
    and zeros and short numbers are kept. -/
theorem Argument.write_read_number (policy : QuotePolicy) (t : Text) (n : Numeral)
    (hn : Numeral.read? t = some n) :
    ∃ w m, Argument.write (.literal (Literal.read policy t)) = .ok w ∧ Numeral.read? w = some m ∧
      (m.value = n.value ↔ n.Kept) ∧ (Literal.ofNumeral? n = none → w = t) ∧
      ∀ x, n.isWhole = false → n.double = .finite x →
        Literal.read policy t = .double (.finite x) ∧ Literal.read policy w = .double (.finite x) ∧
        (∃ (k c : Nat) (s : Int), x.Preferred k c s ∧ m.size = c * 10 ^ s) ∧
        (n.coefficient = 0 ∨ n.Short x → m.value = n.value) := by
  have hwrite : ∀ {w : Text}, (Literal.read policy t).write = .ok w →
      Argument.write (.literal (Literal.read policy t)) = .ok w := by
    intro w hw
    rw [write, hw]
    rfl
  have hkeeps : ∀ {w : Text}, (Literal.read policy t).write = .ok w → Literal.ofNumeral? n = none →
      w = t := fun hw hnone =>
    Except.ok.inj (hw.symm.trans (Literal.write_of_ofNumeral?_eq_none policy hn hnone))
  cases hwhole : n.isWhole with
  | true =>
    obtain ⟨w, m, hw, hm, hvalue⟩ := Literal.exists_write_whole policy hn hwhole
    exact ⟨w, m, hwrite hw, hm, iff_of_true hvalue (Or.inl hwhole), hkeeps hw,
      fun _ hnot => absurd hnot (by decide)⟩
  | false =>
    have hkept : n.Kept ↔ ∀ x, n.double = .finite x →
        ∃ (k c : Nat) (s : Int), x.Preferred k c s ∧ n.size = c * 10 ^ s :=
      or_iff_right (by rw [hwhole]; decide)
    by_cases hfinite : ∃ x, n.double = .finite x
    · obtain ⟨x, hx⟩ := hfinite
      obtain ⟨w, m, hw, hm, hread, hback, hpref, hiff, hshort⟩ :=
        Literal.exists_write_double policy hn hwhole hx
      refine ⟨w, m, hwrite hw, hm, ?_, hkeeps hw, ?_⟩
      · rw [hiff, hkept]
        constructor
        · intro h x' hx'
          obtain rfl : x = x' := by rw [hx] at hx'; cases hx'; rfl
          exact h
        · intro h
          exact h x hx
      · intro x' _ hx'
        obtain rfl : x = x' := by rw [hx] at hx'; cases hx'; rfl
        exact ⟨hread, hback, hpref, hshort⟩
    · -- out of range the text is the numeral that was read
      have hnone : Literal.ofNumeral? n = none := by
        rw [Literal.ofNumeral?, if_neg (by rw [hwhole]; decide)]
        cases hd : n.double with
        | finite x => exact absurd ⟨x, hd⟩ hfinite
        | infinite => rfl
        | nan => rfl
      have hw := Literal.write_of_ofNumeral?_eq_none policy hn hnone
      exact ⟨t, n, hwrite hw, hn, iff_of_true rfl (hkept.2 fun x hx => absurd ⟨x, hx⟩ hfinite),
        fun _ => rfl, fun x _ hx => absurd ⟨x, hx⟩ hfinite⟩

/-- Two and a half, as a double. -/
def Binary64.halfSample : Binary64 := ⟨false, 5629499534213120, 1023, by decide⟩

/-- A short number is kept, and one that is out of range is written as it was read. -/
theorem Argument.write_read_number_halfSample :
    (∃ w m, Argument.write (.literal (Literal.read .doubled "2.50".toList)) = .ok w ∧
      Numeral.read? w = some m ∧ m.value = 5 / 2) ∧
    Argument.write (.literal (Literal.read .doubled "1e400".toList)) = .ok "1e400".toList := by
  constructor
  · obtain ⟨w, m, hw, hm, -, -, hdouble⟩ :=
      write_read_number .doubled "2.50".toList ⟨false, [2], some [5, 0], none⟩ (by decide)
    obtain ⟨-, -, -, hkept⟩ := hdouble .halfSample rfl (by decide +kernel)
    have hsize : Numeral.size ⟨false, [2], some [5, 0], none⟩ = (250 : Nat) * 10 ^ (-2 : Int) := rfl
    refine ⟨w, m, hw, hm, (hkept (Or.inr ⟨by decide, 250, -2, by decide, hsize⟩)).trans ?_⟩
    rw [Numeral.value, if_neg (by decide), hsize]
    norm_num
  · obtain ⟨w, -, hw, -, -, hsame, -⟩ :=
      write_read_number .doubled "1e400".toList ⟨false, [1], none, some 400⟩ (by decide)
    rw [hw, hsame (by decide +kernel)]

/-- **Not every number is kept**: of the two integers around `9007199254740993.0` that are doubles,
    the even one is written. -/
theorem Argument.not_number_kept : ¬ ∀ (policy : QuotePolicy) (t : Text) (n : Numeral),
    Numeral.read? t = some n → ∃ w m, Argument.write (.literal (Literal.read policy t)) = .ok w ∧
      Numeral.read? w = some m ∧ m.value = n.value := by
  intro h
  obtain ⟨w, m, hw, hm, hvalue⟩ := h .doubled "9007199254740993.0".toList
    ⟨false, [9, 0, 0, 7, 1, 9, 9, 2, 5, 4, 7, 4, 0, 9, 9, 3], some [0], none⟩ (by decide)
  have hread : Literal.read .doubled "9007199254740993.0".toList =
      .double (.finite ⟨false, 4503599627370496, 1075, by decide⟩) := by decide +kernel
  have htext : Binary64.text ⟨false, 4503599627370496, 1075, by decide⟩ =
      "9007199254740992.0".toList := by decide +kernel
  have hwritten : Argument.write (.literal (Literal.read .doubled "9007199254740993.0".toList)) =
      .ok "9007199254740992.0".toList := by
    rw [hread, ← htext]
    rfl
  obtain rfl : "9007199254740992.0".toList = w := Except.ok.inj (hwritten.symm.trans hw)
  obtain rfl : ⟨false, [9, 0, 0, 7, 1, 9, 9, 2, 5, 4, 7, 4, 0, 9, 9, 2], some [0], none⟩ = m :=
    Option.some.inj hm
  have htenths : ((90071992547409920 : Nat) * 10 ^ (-1 : Int) : ℚ) =
      (90071992547409930 : Nat) * 10 ^ (-1 : Int) := hvalue
  norm_num at htenths

end QueryFilter
