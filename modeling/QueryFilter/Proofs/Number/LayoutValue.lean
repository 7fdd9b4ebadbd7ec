/-
  LAYOUTS READ BACK — a row of digits keeps its value wherever its point is written.

  1. **Value** — a row of digits with a point is a number (`rowValue`).  Zeros in front move the
     point and zeros behind change nothing, and a numeral is the row of all its digits
     (`Numeral.size_eq_rowValue`).
  2. **Layouts** — what stands before and after the point is the row but for zeros
     (`rowValue_parts`), so that both notations are numerals of the row's value
     (`read?_positional`, `read?_scientific`).

  All together, for the text of `c · 10 ^ scale`: `Binary64.read?_layOut`.
-/
import Mathlib.Algebra.Order.Field.Basic
import Mathlib.Data.List.TakeWhile
import Mathlib.Data.Rat.Cast.Order
import Mathlib.Tactic.FieldSimp
import Mathlib.Tactic.NormNum
import Mathlib.Tactic.Ring
import QueryFilter.Proofs.Number.ReadBack

namespace QueryFilter

/-! ## The value of a row of digits -/

/-- The number `0.d₁d₂… · 10 ^ point`. -/
def rowValue (ds : List Nat) (point : Int) : ℚ := Text.positional ds * 10 ^ (point - ds.length)

/-- The number `coefficient · 10 ^ scale` of a numeral, without its sign. -/
def Numeral.size (n : Numeral) : ℚ := n.coefficient * 10 ^ n.scale

/-- The number that a numeral denotes. -/
def Numeral.value (n : Numeral) : ℚ := if n.negative then -n.size else n.size

/-- Zeros in front of a row move its point. -/
theorem rowValue_zeros_append (k : Nat) (ds : List Nat) (point : Int) :
    rowValue (List.replicate k 0 ++ ds) (point + k) = rowValue ds point := by
  unfold rowValue
  rw [Text.positional_append, Text.positional_replicate_zero, Nat.zero_mul, Nat.zero_add,
    List.length_append, List.length_replicate]
  congr 2
  push_cast
  ring

/-- Zeros behind a row change nothing. -/
theorem rowValue_append_zeros (ds : List Nat) (k : Nat) (point : Int) :
    rowValue (ds ++ List.replicate k 0) point = rowValue ds point := by
  unfold rowValue
  rw [Text.positional_append, Text.positional_replicate_zero, Nat.add_zero, List.length_append,
    List.length_replicate]
  have hscale : point - (ds.length : Int) =
      (point - ((ds.length + k : Nat) : Int)) + (k : Nat) := by
    push_cast
    ring
  rw [hscale, zpow_add₀ (by norm_num), zpow_natCast]
  push_cast
  ring

/-- The digits of a number are a row with the point behind them. -/
theorem rowValue_decimalDigits (c : Nat) (scale : Int) :
    rowValue (Text.decimalDigits c) ((Nat.toDigits 10 c).length + scale) = c * 10 ^ scale := by
  rw [rowValue, Text.positional_decimalDigits, Text.length_decimalDigits, add_sub_cancel_left]

/-- A numeral is a row with the point behind the whole part, moved by the exponent. -/
theorem Numeral.size_eq_rowValue (n : Numeral) :
    n.size = rowValue (n.whole ++ n.fraction.getD []) (n.whole.length + n.exponent.getD 0) := by
  rw [size, rowValue, coefficient, scale, List.length_append]
  congr 2
  push_cast
  ring

/-! ## The exponent -/

namespace Numeral

open Text (IsRow values)

/-- The exponent of a scientific text is read back. -/
theorem readExponent?_exponentPart (e : Int) :
    readExponent? (Layout.double.exponentPart e) = some (some e) := by
  have hrow : IsRow (Text.zeroPad 2 (Nat.toDigits 10 e.natAbs)) :=
    (Text.isRow_zeros _).append (Text.isRow_toDigits _)
  have hvalue : Text.positional (values (Text.zeroPad 2 (Nat.toDigits 10 e.natAbs))) =
      e.natAbs := by
    rw [Text.zeroPad, Text.values_append, Text.values_zeros, Text.positional_append,
      Text.positional_replicate_zero]
    show _ + Text.positional (Text.decimalDigits _) = _
    rw [Text.positional_decimalDigits, Nat.zero_mul, Nat.zero_add]
  have hdigits : Text.digits (Text.zeroPad 2 (Nat.toDigits 10 e.natAbs) ++ []) = _ :=
    Text.digits_run hrow.map_digit? rfl
  have hne : values (Text.zeroPad 2 (Nat.toDigits 10 e.natAbs)) ≠ [] := by
    intro hnil
    have hlen := congrArg List.length hnil
    rw [Text.length_values, Text.zeroPad, List.length_append] at hlen
    have := List.length_pos_iff.2 (Nat.toDigits_ne_nil (n := e.natAbs) (b := 10))
    simp only [List.length_nil] at hlen
    omega
  rw [List.append_nil] at hdigits
  show readExponent? ('e' :: (if e < 0 then '-' else '+') :: Text.zeroPad 2 _) = _
  obtain ⟨d, ds, hds⟩ := List.exists_cons_of_ne_nil hne
  rw [hds] at hdigits hvalue
  rw [readExponent?, if_pos (Or.inl rfl)]
  by_cases hneg : e < 0
  · simp only [if_pos hneg, readSign, hdigits, hvalue, if_true]
    congr 2
    omega
  · simp only [if_neg hneg, readSign, hdigits, hvalue, Bool.false_eq_true, if_false]
    congr 2
    omega

end Numeral

/-! ## Layouts -/

namespace Layout

open Text (IsRow values)

variable {ds : Text}

theorem isRow_wholePart (hds : IsRow ds) (point : Int) : IsRow (wholePart ds point) := by
  unfold wholePart
  split
  · exact Text.isRow_zeros 1
  · exact IsRow.append (fun c hc => hds c (List.mem_of_mem_take hc)) (Text.isRow_zeros _)

theorem isRow_fractionPart (hds : IsRow ds) (point : Int) : IsRow (fractionPart ds point) :=
  (Text.isRow_zeros _).append fun c hc => hds c (List.mem_of_mem_drop hc)

/-- There is always a digit before the point. -/
theorem wholePart_ne_nil (ds : Text) (point : Int) : wholePart ds point ≠ [] := by
  unfold wholePart
  split
  · exact List.cons_ne_nil _ _
  · intro hnil
    have hlen := congrArg List.length hnil
    simp only [List.length_append, List.length_take, List.length_replicate, List.length_nil] at hlen
    omega

/-- **The parts before and after the point are the row**, but for zeros at its ends. -/
theorem rowValue_parts (ds : Text) (point : Int) :
    rowValue (values (wholePart ds point) ++ values (fractionPart ds point))
      (wholePart ds point).length = rowValue (values ds) point := by
  unfold wholePart fractionPart
  split
  · rename_i hpoint
    obtain ⟨k, hk⟩ := Int.eq_ofNat_of_zero_le (show 0 ≤ -point by omega)
    obtain rfl : point = -(k : Int) := by omega
    have hfront := rowValue_zeros_append (k + 1) (values ds) (-(k : Int))
    rw [← hfront, Int.neg_neg, Int.toNat_natCast, Int.toNat_neg_natCast, List.drop_zero,
      Text.values_append, Text.values_zeros, ← List.append_assoc]
    congr 1
    show (1 : Int) = _
    push_cast
    ring
  · rename_i hpoint
    obtain ⟨k, rfl⟩ := Int.eq_ofNat_of_zero_le (show 0 ≤ point by omega)
    have hback := rowValue_append_zeros (values ds) (k - ds.length) k
    rw [← hback, Int.toNat_natCast, Int.toNat_neg_natCast, List.replicate_zero, List.nil_append,
      Text.values_append, Text.values_zeros]
    rcases Nat.le_total k ds.length with hle | hle
    · rw [Nat.sub_eq_zero_of_le hle, List.replicate_zero, List.append_nil, List.append_nil,
        ← Text.values_append, List.take_append_drop, List.length_append, List.length_take,
        Nat.min_eq_left hle]
      rfl
    · rw [List.take_of_length_le hle, List.drop_of_length_le hle]
      have hlen : (ds ++ List.replicate (k - ds.length) '0').length = k := by
        rw [List.length_append, List.length_replicate]
        omega
      rw [hlen]
      congr 1
      exact List.append_nil _

/-- **A positional text is a numeral of its row and point.** -/
theorem read?_positional (negative : Bool) (hds : IsRow ds) (point : Int) :
    ∃ n, Numeral.read? (Integer.sign negative ++ double.positional ds point) = some n ∧
      n.isWhole = false ∧ n.negative = negative ∧ n.size = rowValue (values ds) point := by
  -- an empty fraction is written as a zero
  obtain ⟨shown, hshown, hrow, hvalue⟩ : ∃ shown : Text,
      double.positional ds point = wholePart ds point ++ '.' :: (shown ++ []) ∧ IsRow shown ∧
      rowValue (values (wholePart ds point) ++ values shown) (wholePart ds point).length =
        rowValue (values ds) point := by
    unfold positional
    simp only [List.append_nil]
    by_cases hnil : fractionPart ds point = []
    · refine ⟨['0'], by rw [if_pos hnil]; rfl, Text.isRow_zeros 1, ?_⟩
      have hparts := rowValue_parts ds point
      rw [hnil, ← rowValue_append_zeros _ 1] at hparts
      rw [← hparts]
      simp [values]
    · exact ⟨fractionPart ds point, by rw [if_neg hnil], isRow_fractionPart hds point,
        rowValue_parts ds point⟩
  have hread : Numeral.read?
      (Integer.sign negative ++ (wholePart ds point ++ '.' :: (shown ++ []))) =
      some ⟨negative, _, _, none⟩ :=
    Numeral.read?_parts negative (isRow_wholePart hds point) (wholePart_ne_nil ds point) rfl
      (Numeral.readFraction_row hrow rfl) rfl
  refine ⟨_, by rw [hshown]; exact hread, rfl, rfl, ?_⟩
  rw [Numeral.size_eq_rowValue, ← hvalue]
  simp

/-- **A scientific text is a numeral of its row and point.** -/
theorem read?_scientific (negative : Bool) (hds : IsRow ds) (hne : ds ≠ []) (point : Int) :
    ∃ n, Numeral.read? (Integer.sign negative ++ double.scientific ds point) = some n ∧
      n.isWhole = false ∧ n.negative = negative ∧ n.size = rowValue (values ds) point := by
  obtain ⟨d, ds, rfl⟩ := List.exists_cons_of_ne_nil hne
  have hfirst : IsRow [d] := fun c hc => hds c (by
    rw [List.mem_singleton.1 hc]
    exact List.mem_cons_self ..)
  have hrest : IsRow ds := fun c hc => hds c (List.mem_cons_of_mem _ hc)
  have hend : (Text.digits (double.exponentPart (point - 1))).1 = [] := rfl
  have hexponent := Numeral.readExponent?_exponentPart (point - 1)
  have hpoint : (1 : Int) + (point - 1) = point := by ring
  unfold scientific
  by_cases hnil : ds = []
  · subst hnil
    have hread : Numeral.read? _ = some ⟨negative, values [d], none, some (point - 1)⟩ :=
      Numeral.read?_parts negative hfirst (List.cons_ne_nil _ _) hend rfl hexponent
    refine ⟨_, hread, rfl, rfl, ?_⟩
    rw [Numeral.size_eq_rowValue]
    simp only [Option.getD_none, Option.getD_some, List.append_nil, Text.length_values,
      List.length_singleton, Nat.cast_one, hpoint]
  · have hread := Numeral.read?_parts negative hfirst (List.cons_ne_nil _ _) rfl
      (Numeral.readFraction_row hrest hend) hexponent
    refine ⟨⟨negative, values [d], some (values ds), some (point - 1)⟩, ?_, rfl, rfl, ?_⟩
    · simp only [List.drop_succ_cons, List.drop_zero, List.take_succ_cons, List.take_zero,
        if_neg hnil]
      exact hread
    · rw [Numeral.size_eq_rowValue]
      simp only [Option.getD_some, Text.length_values, List.length_singleton, Nat.cast_one, hpoint,
        ← Text.values_append]
      rfl

end Layout

/-! ## The text of a decimal -/

namespace Binary64

/-- Without the zeros at its end, a row is the row. -/
theorem exists_zeros (ds : Text) :
    ∃ k, ds = (ds.reverse.dropWhile (· == '0')).reverse ++ List.replicate k '0' := by
  refine ⟨(ds.reverse.takeWhile (· == '0')).length, ?_⟩
  have hsplit := congrArg List.reverse
    (List.takeWhile_append_dropWhile (p := (· == '0')) (l := ds.reverse))
  rw [List.reverse_append, List.reverse_reverse] at hsplit
  have hzeros : (ds.reverse.takeWhile (· == '0')).reverse =
      List.replicate (ds.reverse.takeWhile (· == '0')).length '0' := by
    rw [List.eq_replicate_iff, List.length_reverse]
    refine ⟨rfl, fun c hc => ?_⟩
    have := List.mem_takeWhile_imp (List.mem_reverse.1 hc)
    exact eq_of_beq this
  rw [← hzeros, hsplit]

/-- **What is written for `c · 10 ^ scale` is a numeral of that value.** -/
theorem read?_layOut (negative : Bool) {c : Nat} (hc : c ≠ 0) (scale : Int) :
    ∃ n, Numeral.read? (Integer.sign negative ++ layOut .double c scale) = some n ∧
      n.isWhole = false ∧ n.negative = negative ∧ n.size = c * 10 ^ scale := by
  obtain ⟨k, hk⟩ := exists_zeros (Nat.toDigits 10 c)
  unfold layOut
  simp only
  generalize hpoint : ((Nat.toDigits 10 c).length : Int) + scale = point
  generalize ((Nat.toDigits 10 c).reverse.dropWhile (· == '0')).reverse = significant at hk ⊢
  have hrow : Text.IsRow significant := fun d hd => Text.isRow_toDigits c d (by
    rw [hk]
    exact List.mem_append_left _ hd)
  have hvalues : Text.decimalDigits c = Text.values significant ++ List.replicate k 0 := by
    rw [← Text.values_zeros, ← Text.values_append, ← hk]
    rfl
  have hvalue : rowValue (Text.values significant) point = c * 10 ^ scale := by
    rw [← rowValue_decimalDigits c scale, hpoint, hvalues, rowValue_append_zeros]
  have hne : significant ≠ [] := by
    rintro rfl
    have hzero := congrArg Text.positional hvalues
    rw [Text.positional_decimalDigits, Text.values, List.map_nil, List.nil_append,
      Text.positional_replicate_zero] at hzero
    exact hc hzero
  rw [← hvalue]
  split
  · exact Layout.read?_positional negative hrow point
  · exact Layout.read?_scientific negative hrow hne point

end Binary64

end QueryFilter
