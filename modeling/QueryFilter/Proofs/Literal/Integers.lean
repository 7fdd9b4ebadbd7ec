/-
  INTEGERS — however an integer is spelled, it is written in one way.

  1. **Specification** — `Spells t ds n`: the token `t` is a sign or none and the digits `ds`, of
     any scripts, and denotes `n`.  `Tidy w n`: the text `w` has nothing but what `n` needs, a minus
     sign for a negative number and ASCII digits of which the first is zero only for zero itself.
  2. **Digits** — a row that does not begin with zero is what its number is written as
     (`toDigits_positional`), and no positive number is written with a zero in front.
  3. **Tidy texts** — so the tidy text of a number is the one that is written (`tidy_iff`).
  4. **Reading** — a spelling is a whole numeral of its integer (`Spells.exists_read?`).

  All together: `Argument.write_read_integer`.
-/
import Mathlib.Data.List.Induction
import Mathlib.Data.Nat.Digits.Defs
import QueryFilter.Fault
import QueryFilter.Proofs.Literal.ReadWrite

namespace QueryFilter

open Text (IsRow values positional digit?)

/-! ## The specification -/

namespace Integer

/-- The number that digits denote: the last one counts once, and each other one ten times as
    much as the one behind it. -/
def digitsValue (ds : List Nat) : Nat := Nat.ofDigits 10 ds.reverse

/-- Decimal digits of any scripts, one at least, with their values. -/
structure Digits (run : Text) (ds : List Nat) : Prop where
  values : run.map digit? = ds.map some
  ne_nil : ds ≠ []

/-- A token that is a sign or none, and digits. -/
inductive Spells : Text → List Nat → Int → Prop
  | unsigned {run : Text} {ds : List Nat} (digits : Digits run ds) : Spells run ds (digitsValue ds)
  | plus {run : Text} {ds : List Nat} (digits : Digits run ds) :
      Spells ('+' :: run) ds (digitsValue ds)
  | minus {run : Text} {ds : List Nat} (digits : Digits run ds) :
      Spells ('-' :: run) ds (-(digitsValue ds : Int))

/-- A text of ASCII digits, after a minus sign for a negative number, with no zero in front. -/
inductive Tidy : Text → Int → Prop
  | zero : Tidy ['0'] 0
  | positive {c : Char} {s : Text} (row : IsRow (c :: s)) (first : c ≠ '0') :
      Tidy (c :: s) (digitsValue (values (c :: s)))
  | negative {c : Char} {s : Text} (row : IsRow (c :: s)) (first : c ≠ '0') :
      Tidy ('-' :: c :: s) (-(digitsValue (values (c :: s)) : Int))

end Integer

/-! ## Digits -/

namespace Text

/-- The digits of a row have the value that they are read as. -/
theorem positional_eq_digitsValue (ds : List Nat) : positional ds = Integer.digitsValue ds := by
  induction ds with
  | nil => rfl
  | cons d ds ih =>
    rw [positional_cons, ih, Integer.digitsValue, Integer.digitsValue, List.reverse_cons,
      Nat.ofDigits_append, Nat.ofDigits_singleton, List.length_reverse, Nat.mul_comm, Nat.add_comm]

/-- An ASCII digit is the one that is written for its value. -/
theorem digitChar_of_isDigit {c : Char} (h : c.isDigit = true) :
    Nat.digitChar (c.toNat - 48) = c := by
  obtain ⟨hlow, hhigh⟩ := toNat_of_isDigit h
  have hall : ∀ k : Fin 10, Nat.digitChar k = Char.ofNat (48 + k) := by decide
  have hc := hall ⟨c.toNat - 48, by omega⟩
  rwa [show 48 + (c.toNat - 48) = c.toNat from by omega, Char.ofNat_toNat] at hc

/-- A first digit other than zero makes a positive number. -/
theorem positional_pos {c : Char} (hc : c.isDigit = true) (hfirst : c ≠ '0') (s : Text) :
    0 < positional (values (c :: s)) := by
  have hvalue : c.toNat - 48 ≠ 0 := by
    intro hzero
    have hchar := digitChar_of_isDigit hc
    rw [hzero] at hchar
    exact hfirst hchar.symm
  show 0 < positional ((c.toNat - 48) :: values s)
  rw [positional_cons]
  exact Nat.add_pos_left (Nat.mul_pos (Nat.pos_of_ne_zero hvalue) (Nat.pow_pos (by decide))) _

/-- **A row that does not begin with zero is what is written for its number.** -/
theorem toDigits_positional {c : Char} {s : Text} (hrow : IsRow (c :: s)) (hfirst : c ≠ '0') :
    Nat.toDigits 10 (positional (values (c :: s))) = c :: s := by
  induction s using List.reverseRecOn with
  | nil =>
    have hc := hrow c (List.mem_cons_self ..)
    have hlt := (toNat_of_isDigit hc).2
    show Nat.toDigits 10 (10 * 0 + (c.toNat - 48)) = [c]
    rw [Nat.mul_zero, Nat.zero_add, Nat.toDigits_of_lt_base (by omega), digitChar_of_isDigit hc]
  | append_singleton s d ih =>
    -- the last digit is written behind what the others are written as
    have hd := hrow d (by simp)
    have hlt := (toNat_of_isDigit hd).2
    have hfront : IsRow (c :: s) := fun e he => hrow e (List.mem_append_left [d] he)
    have hpos := positional_pos (hrow c (List.mem_cons_self ..)) hfirst s
    have hvalue : positional (values (c :: s ++ [d])) =
        10 * positional (values (c :: s)) + (d.toNat - 48) := by
      rw [values_append, positional_append, Nat.mul_comm]
      show 10 ^ 1 * _ + (10 * 0 + (d.toNat - 48)) = _
      omega
    rw [← List.cons_append, hvalue, ← Nat.toDigits_append_toDigits (by decide) hpos (by omega),
      ih hfront, Nat.toDigits_of_lt_base (by omega), digitChar_of_isDigit hd]

/-- A positive number is written with no zero in front. -/
theorem toDigits_ne_zero_cons {n : Nat} (hn : 0 < n) (s : Text) : Nat.toDigits 10 n ≠ '0' :: s := by
  intro h
  have hrow : IsRow ('0' :: s) := h ▸ isRow_toDigits n
  have hvalue : positional (values s) = n := by
    have hall := positional_decimalDigits n
    rw [decimalDigits, h] at hall
    rw [← hall]
    show _ = positional (0 :: values s)
    rw [positional_cons, Nat.zero_mul, Nat.zero_add]
  -- without the zero there are too few digits
  have hlt : n < 10 ^ s.length := by
    have hbound : positional (values s) < 10 ^ (values s).length :=
      positional_lt fun d hd => hrow.values_lt_ten d (List.mem_cons_of_mem 0 hd)
    rwa [hvalue, length_values] at hbound
  have hpos : 0 < s.length := by
    cases s with
    | nil =>
      rw [List.length_nil, Nat.pow_zero] at hlt
      omega
    | cons d s => exact Nat.succ_pos _
  have hlen := (Nat.length_toDigits_le_iff (b := 10) (by decide) hpos).2 hlt
  rw [h, List.length_cons] at hlen
  omega

end Text

/-! ## Tidy texts -/

namespace Integer

theorem numeral_natCast (m : Nat) : numeral m = Nat.toDigits 10 m := by
  rw [numeral, decide_eq_false (by omega), Int.natAbs_natCast]
  rfl

theorem numeral_neg {m : Nat} (hm : 0 < m) : numeral (-(m : Int)) = '-' :: Nat.toDigits 10 m := by
  rw [numeral, decide_eq_true (by omega), Int.natAbs_neg, Int.natAbs_natCast]
  rfl

/-- A positive number is written as a row that does not begin with zero. -/
theorem exists_row_toDigits {m : Nat} (hm : 0 < m) :
    ∃ c s, Nat.toDigits 10 m = c :: s ∧ IsRow (c :: s) ∧ c ≠ '0' ∧
      digitsValue (values (c :: s)) = m := by
  obtain ⟨c, s, hcs⟩ := List.exists_cons_of_ne_nil (Nat.toDigits_ne_nil (b := 10) (n := m))
  refine ⟨c, s, hcs, hcs ▸ Text.isRow_toDigits m, ?_, ?_⟩
  · rintro rfl
    exact Text.toDigits_ne_zero_cons hm s hcs
  · rw [← Text.positional_eq_digitsValue, ← hcs]
    exact Text.positional_decimalDigits m

/-- **The tidy text of an integer is the one that is written.** -/
theorem tidy_iff {w : Text} {n : Int} : Tidy w n ↔ w = numeral n := by
  constructor
  · intro h
    cases h with
    | zero => rfl
    | @positive c s row first =>
      rw [← Text.positional_eq_digitsValue, numeral_natCast, Text.toDigits_positional row first]
    | @negative c s row first =>
      have hpos := Text.positional_pos (row c (List.mem_cons_self ..)) first s
      rw [← Text.positional_eq_digitsValue, numeral_neg hpos, Text.toDigits_positional row first]
  · rintro rfl
    rcases Int.lt_trichotomy n 0 with hneg | rfl | hpos
    · obtain ⟨c, s, hcs, hrow, hfirst, hvalue⟩ := exists_row_toDigits (m := n.natAbs) (by omega)
      have hn : n = -(n.natAbs : Int) := by omega
      have htidy := Tidy.negative hrow hfirst
      rwa [hvalue, ← hcs, ← numeral_neg (by omega), ← hn] at htidy
    · exact .zero
    · obtain ⟨c, s, hcs, hrow, hfirst, hvalue⟩ := exists_row_toDigits (m := n.natAbs) (by omega)
      have hn : n = (n.natAbs : Int) := by omega
      have htidy := Tidy.positive hrow hfirst
      rwa [hvalue, ← hcs, ← numeral_natCast, ← hn] at htidy

/-- Different integers are written differently. -/
theorem numeral_injective {m n : Int} (h : numeral m = numeral n) : m = n := by
  have hread := congrArg Numeral.read? h
  rw [Numeral.read?_numeral, Numeral.read?_numeral] at hread
  rw [← Numeral.integer_decimalDigits m, ← Numeral.integer_decimalDigits n, Option.some.inj hread]

/-! ## Reading -/

/-- Digits behind a sign that is read off are a whole numeral. -/
theorem Digits.read? {t run : Text} {ds : List Nat} {negative : Bool} (h : Digits run ds)
    (ht : Numeral.readSign t = (negative, run)) :
    Numeral.read? t = some ⟨negative, ds, none, none⟩ := by
  have hdigits : Text.digits (run ++ []) = (ds, []) := Text.digits_run h.values rfl
  rw [List.append_nil] at hdigits
  rw [Numeral.read?_eq_some_iff, ht, hdigits]
  exact ⟨⟨rfl, rfl, rfl⟩, fun hnone => h.ne_nil hnone.1, rfl⟩

/-- **A spelling is a whole numeral of its digits**, which denotes its integer. -/
theorem Spells.exists_read? {t : Text} {ds : List Nat} {n : Int} (h : Spells t ds n) :
    ∃ m, Numeral.read? t = some m ∧ m.isWhole = true ∧ m.whole = ds ∧ m.integer = n := by
  cases h with
  | unsigned digits =>
    have hne : t ≠ [] := by
      rintro rfl
      exact digits.ne_nil (List.map_eq_nil_iff.1 digits.values.symm)
    have hsign := Numeral.readSign_digits digits.values hne []
    rw [List.append_nil] at hsign
    refine ⟨_, digits.read? hsign, rfl, rfl, ?_⟩
    rw [← Text.positional_eq_digitsValue]
    rfl
  | plus digits =>
    refine ⟨_, digits.read? rfl, rfl, rfl, ?_⟩
    rw [← Text.positional_eq_digitsValue]
    rfl
  | minus digits =>
    refine ⟨_, digits.read? rfl, rfl, rfl, ?_⟩
    rw [← Text.positional_eq_digitsValue]
    rfl

end Integer

/-! ## All together -/

/-- **Integers have one text.**  Within the limit of digits, each spelling of an integer is read and
    written as its tidy text, so that two spellings are written alike exactly if they denote the
    same integer.  Beyond the limit a spelling stays as it is. -/
theorem Argument.write_read_integer (policy : QuotePolicy) :
    (∀ t ds n, Integer.Spells t ds n → ds.length ≤ Integer.digitLimit →
      ∃ w, Argument.write (.literal (Literal.read policy t)) = .ok w ∧ Integer.Tidy w n) ∧
    (∀ t ds n t' ds' n', Integer.Spells t ds n → ds.length ≤ Integer.digitLimit →
      Integer.Spells t' ds' n' → ds'.length ≤ Integer.digitLimit →
      (Argument.write (.literal (Literal.read policy t)) =
        Argument.write (.literal (Literal.read policy t')) ↔ n = n')) ∧
    ∀ t ds n, Integer.Spells t ds n → Integer.digitLimit < ds.length →
      Argument.write (.literal (Literal.read policy t)) = .ok t := by
  have hwithin : ∀ {t ds n}, Integer.Spells t ds n → ds.length ≤ Integer.digitLimit →
      Argument.write (.literal (Literal.read policy t)) = .ok (Integer.numeral n) := by
    intro t ds n h hlen
    obtain ⟨m, hm, hwhole, rfl, rfl⟩ := h.exists_read?
    exact Argument.write_literal (Literal.write_read_whole policy hm hwhole hlen)
  refine ⟨fun t ds n h hlen => ⟨_, hwithin h hlen, Integer.tidy_iff.2 rfl⟩, ?_, ?_⟩
  · intro t ds n t' ds' n' h hlen h' hlen'
    rw [hwithin h hlen, hwithin h' hlen', Except.ok.injEq]
    exact ⟨Integer.numeral_injective, fun heq => heq ▸ rfl⟩
  · intro t ds n h hlen
    obtain ⟨m, hm, hwhole, rfl, -⟩ := h.exists_read?
    have hnone : Literal.ofNumeral? m = none := by
      rw [Literal.ofNumeral?, if_pos hwhole, if_neg (Nat.not_le_of_lt hlen)]
    exact Argument.write_literal (Literal.write_of_ofNumeral?_eq_none policy hm hnone)

/-- Seven in digits of three scripts, with a plus sign and zeros, and in one digit; zero with a
    minus sign; and one digit more than the limit. -/
theorem Argument.write_read_integer_scriptSample :
    Argument.write (.literal (Literal.read .doubled "+٠0७".toList)) =
      Argument.write (.literal (Literal.read .doubled "7".toList)) ∧
    (∃ w, Argument.write (.literal (Literal.read .doubled "-00".toList)) = .ok w ∧ Integer.Tidy w 0) ∧
    Argument.write (.literal (Literal.read .doubled (List.replicate 4301 '1'))) =
      .ok (List.replicate 4301 '1') := by
  obtain ⟨htidy, halike, hkept⟩ := write_read_integer .doubled
  have hseven : Integer.Spells "+٠0७".toList [0, 0, 7] 7 := .plus ⟨by decide, by decide⟩
  have hdigit : Integer.Spells "7".toList [7] 7 := .unsigned ⟨by decide, by decide⟩
  have hzero : Integer.Spells "-00".toList [0, 0] 0 := .minus ⟨by decide, by decide⟩
  have hlong : Integer.Digits (List.replicate 4301 '1') (List.replicate 4301 1) :=
    ⟨by rw [List.map_replicate, List.map_replicate]; rfl,
      by rw [Ne, List.replicate_eq_nil_iff]; decide⟩
  refine ⟨(halike _ _ _ _ _ _ hseven (by decide) hdigit (by decide)).2 rfl,
    htidy _ _ _ hzero (by decide), hkept _ _ _ (.unsigned hlong) ?_⟩
  rw [List.length_replicate]
  decide

end QueryFilter
