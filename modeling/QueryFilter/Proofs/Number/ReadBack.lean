/-
  NUMBERS READ BACK — what a number is written as is a numeral that denotes the number.

  1. **Parts** — a numeral is a sign, a row of digits, a fraction and an exponent, and each part is
     read as far as the next one begins (`Numeral.read?_parts`).
  2. **Integers** — the base-ten text of an integer is a whole numeral of that integer, and a whole
     numeral of at most `k` digits denotes an integer with a text of at most `k` digits: reading and
     writing share their limit.
  3. **Doubles** — the text of a double is by definition the first of its candidates that reads
     back, and the exact expansion if none does.  So the one thing to show is that the exact
     expansion reads back (`readsBack_exactText`): its coefficient is `units · 5 ^ 1074`, its scale
     is `-1074`, and rounding that quotient is a division without remainder.
-/
import QueryFilter.Number.Shortest
import QueryFilter.Proofs.Number.Digits

namespace QueryFilter

/-! ## Numerals -/

namespace Numeral

/-- The characters that occur in a numeral. -/
def InNumeral (c : Char) : Prop := (Text.digit? c).isSome ∨ c ∈ ['+', '-', '.', 'e', 'E']

theorem readSign_append (s : Text) :
    ∃ t, t ++ (readSign s).2 = s ∧ ∀ c ∈ t, InNumeral c := by
  unfold readSign
  split
  · exact ⟨['-'], rfl, by simp [InNumeral]⟩
  · exact ⟨['+'], rfl, by simp [InNumeral]⟩
  · exact ⟨[], rfl, by simp⟩

theorem readFraction_append (s : Text) :
    ∃ t, t ++ (readFraction s).2 = s ∧ ∀ c ∈ t, InNumeral c := by
  unfold readFraction
  split
  · rename_i s
    obtain ⟨run, hrun, hall⟩ := Text.digits_append s
    refine ⟨'.' :: run, by simp [hrun], ?_⟩
    intro c hc
    rcases List.mem_cons.1 hc with rfl | hc
    · simp [InNumeral]
    · exact Or.inl (hall c hc)
  · exact ⟨[], rfl, by simp⟩

/-- An exponent is made of characters of numerals. -/
theorem mem_of_readExponent? {s : Text} {e : Option Int} (h : readExponent? s = some e) :
    ∀ c ∈ s, InNumeral c := by
  cases s with
  | nil => simp
  | cons m s =>
    rw [readExponent?] at h
    split at h
    · rename_i hm
      obtain ⟨sign, hsign, hsignall⟩ := readSign_append s
      obtain ⟨run, hrun, hrunall⟩ := Text.digits_append (readSign s).2
      have hempty : (Text.digits (readSign s).2).2 = [] := by
        simp only at h
        split at h
        · cases h
        · rename_i ds hds
          rw [hds]
        · cases h
      have hs : s = sign ++ run := by rw [← hsign, ← hrun, hempty, List.append_nil]
      intro c hc
      rcases List.mem_cons.1 hc with rfl | hc
      · rcases hm with rfl | rfl <;> simp [InNumeral]
      · rw [hs] at hc
        rcases List.mem_append.1 hc with hc | hc
        · exact hsignall c hc
        · exact Or.inl (hrunall c hc)
    · cases h

/-- What `read?` puts together: sign, whole part, fraction and exponent, in this order. -/
theorem read?_eq_some_iff {s : Text} {n : Numeral} :
    read? s = some n ↔
      (n.negative = (readSign s).1 ∧ n.whole = (Text.digits (readSign s).2).1 ∧
        n.fraction = (readFraction (Text.digits (readSign s).2).2).1) ∧
      ¬(n.whole = [] ∧ n.fraction.getD [] = []) ∧
      readExponent? (readFraction (Text.digits (readSign s).2).2).2 = some n.exponent := by
  obtain ⟨negative, whole, fraction, exponent⟩ := n
  rw [read?]
  simp only
  constructor
  · intro h
    split at h
    · cases h
    · rename_i hne
      obtain ⟨e, he, heq⟩ := Option.map_eq_some_iff.1 h
      cases heq
      exact ⟨⟨rfl, rfl, rfl⟩, hne, he⟩
  · rintro ⟨⟨rfl, rfl, rfl⟩, hne, he⟩
    rw [if_neg hne, he]
    rfl

/-- A numeral is made of digits, signs, a point and the mark of an exponent. -/
theorem mem_of_read? {s : Text} {n : Numeral} (h : read? s = some n) : ∀ c ∈ s, InNumeral c := by
  obtain ⟨-, -, he⟩ := read?_eq_some_iff.1 h
  obtain ⟨sign, hsign, hsignall⟩ := readSign_append s
  obtain ⟨run, hrun, hrunall⟩ := Text.digits_append (readSign s).2
  obtain ⟨frac, hfrac, hfracall⟩ := readFraction_append (Text.digits (readSign s).2).2
  have hs : s = sign ++ (run ++ (frac ++ (readFraction (Text.digits (readSign s).2).2).2)) := by
    rw [hfrac, hrun, hsign]
  intro c hc
  rw [hs] at hc
  rcases List.mem_append.1 hc with hc | hc
  · exact hsignall c hc
  · rcases List.mem_append.1 hc with hc | hc
    · exact Or.inl (hrunall c hc)
    · rcases List.mem_append.1 hc with hc | hc
      · exact hfracall c hc
      · exact mem_of_readExponent? he c hc

/-- There is no empty numeral. -/
theorem read?_nil : read? [] = none := rfl

/-- The digits before the point of a numeral are below ten. -/
theorem whole_lt_ten {s : Text} {n : Numeral} (h : read? s = some n) : ∀ d ∈ n.whole, d < 10 := by
  obtain ⟨⟨-, hw, -⟩, -⟩ := read?_eq_some_iff.1 h
  intro d hd
  rw [hw] at hd
  exact Text.lt_ten_of_mem_digits hd

/-- A numeral without a point has digits. -/
theorem whole_ne_nil {s : Text} {n : Numeral} (h : read? s = some n) (hn : n.isWhole = true) :
    n.whole ≠ [] := by
  obtain ⟨-, hne, -⟩ := read?_eq_some_iff.1 h
  simp [isWhole] at hn
  intro hw
  exact hne ⟨hw, by simp [hn.1]⟩

/-- A sign in front of something that starts with none is read off. -/
theorem readSign_sign_append (negative : Bool) {s : Text} (hs : readSign s = (false, s)) :
    readSign (Integer.sign negative ++ s) = (negative, s) := by
  cases negative with
  | false => exact hs
  | true => rfl

/-- Digits of any script start with no sign. -/
theorem readSign_digits {s : Text} {ds : List Nat} (hs : s.map Text.digit? = ds.map some)
    (hne : s ≠ []) (rest : Text) : readSign (s ++ rest) = (false, s ++ rest) := by
  obtain ⟨c, s, rfl⟩ := List.exists_cons_of_ne_nil hne
  have hc : (Text.digit? c).isSome = true := by
    obtain ⟨d, -, hd⟩ : ∃ d ∈ ds, some d = Text.digit? c :=
      List.mem_map.1 (hs ▸ List.mem_cons_self ..)
    rw [← hd]
    rfl
  rw [List.cons_append]
  unfold readSign
  split
  · rename_i heq
    cases heq
    exact absurd hc (by decide)
  · rename_i heq
    cases heq
    exact absurd hc (by decide)
  · rfl

/-- A row of digits starts with no sign. -/
theorem readSign_row {s : Text} (hs : Text.IsRow s) (hne : s ≠ []) (rest : Text) :
    readSign (s ++ rest) = (false, s ++ rest) :=
  readSign_digits hs.map_digit? hne rest

/-- Sign, whole part, fraction and exponent are read as they are written. -/
theorem read?_parts (negative : Bool) {w rest rest' : Text} {fraction : Option (List Nat)}
    {exponent : Option Int} (hw : Text.IsRow w) (hne : w ≠ []) (hend : (Text.digits rest).1 = [])
    (hfraction : readFraction rest = (fraction, rest'))
    (hexponent : readExponent? rest' = some exponent) :
    read? (Integer.sign negative ++ (w ++ rest)) =
      some ⟨negative, Text.values w, fraction, exponent⟩ := by
  have hsign := readSign_sign_append negative (readSign_row hw hne rest)
  have hwhole := Text.digits_run hw.map_digit? hend
  rw [read?_eq_some_iff, hsign, hwhole, hfraction]
  refine ⟨⟨rfl, rfl, rfl⟩, ?_, hexponent⟩
  rintro ⟨hnone, -⟩
  exact hne (List.map_eq_nil_iff.1 hnone)

/-- A point and a row of digits are a fraction. -/
theorem readFraction_row {f rest : Text} (hf : Text.IsRow f) (hend : (Text.digits rest).1 = []) :
    readFraction ('.' :: (f ++ rest)) = (some (Text.values f), rest) := by
  have hdigits := Text.digits_run hf.map_digit? hend
  rw [readFraction, hdigits]

end Numeral

/-! ## Integers -/

/-- The text of an integer is its sign and its digits, and nothing else. -/
theorem Numeral.read?_numeral (n : Int) :
    Numeral.read? (Integer.numeral n) =
      some ⟨decide (n < 0), Text.decimalDigits n.natAbs, none, none⟩ := by
  have hread : Numeral.read? (Integer.sign (decide (n < 0)) ++ (Nat.toDigits 10 n.natAbs ++ [])) =
      some ⟨_, _, none, none⟩ :=
    Numeral.read?_parts _ (Text.isRow_toDigits n.natAbs) Nat.toDigits_ne_nil rfl rfl rfl
  rwa [List.append_nil] at hread

/-- A numeral that is read from the text of an integer denotes that integer. -/
theorem Numeral.integer_decimalDigits (n : Int) :
    Numeral.integer ⟨decide (n < 0), Text.decimalDigits n.natAbs, none, none⟩ = n := by
  simp only [Numeral.integer, Text.positional_decimalDigits, decide_eq_true_eq]
  split <;> omega

/-- A whole numeral within the limit denotes an integer that has a text. -/
theorem Integer.text?_integer {s : Text} {n : Numeral} (h : Numeral.read? s = some n)
    (hw : n.isWhole = true) (hlen : n.whole.length ≤ digitLimit) :
    text? n.integer = some (numeral n.integer) := by
  have habs : n.integer.natAbs = Text.positional n.whole := by
    rw [Numeral.integer]
    split <;> omega
  have hpos : 0 < n.whole.length := List.length_pos_iff.2 (Numeral.whole_ne_nil h hw)
  have hlt : n.integer.natAbs < 10 ^ n.whole.length := by
    rw [habs]
    exact Text.positional_lt (Numeral.whole_lt_ten h)
  have hdigits := (Nat.length_toDigits_le_iff (b := 10) (by decide) hpos).2 hlt
  rw [text?, if_pos (Nat.le_trans hdigits hlen)]

/-! ## Doubles -/

/-- A text with `k` places behind the point is a numeral with `k` digits there. -/
theorem Numeral.read?_places (negative : Bool) (q m k : Nat) (hk : 0 < k) (hm : m < 10 ^ k) :
    ∃ n, Numeral.read? (Integer.sign negative ++ Nat.toDigits 10 q ++
        '.' :: Text.zeroPad k (Nat.toDigits 10 m)) = some n ∧
      n.isWhole = false ∧ n.negative = negative ∧ n.coefficient = q * 10 ^ k + m ∧
      n.scale = -(k : Int) := by
  have hlen : (Nat.toDigits 10 m).length ≤ k := (Nat.length_toDigits_le_iff (by decide) hk).2 hm
  -- the places are zeros, then the digits of `m`, and there are exactly `k` of them
  let places := List.replicate (k - (Nat.toDigits 10 m).length) 0 ++ Text.decimalDigits m
  have hplaces : places.length = k := by
    simp only [places, List.length_append, List.length_replicate, Text.length_decimalDigits]
    omega
  have hvalue : Text.positional places = m := by
    rw [Text.positional_append, Text.positional_replicate_zero, Text.positional_decimalDigits]
    omega
  have hrow : Text.IsRow (Text.zeroPad k (Nat.toDigits 10 m)) :=
    (Text.isRow_zeros _).append (Text.isRow_toDigits m)
  have hvalues : Text.values (Text.zeroPad k (Nat.toDigits 10 m)) = places := by
    rw [Text.zeroPad, Text.values_append, Text.values_zeros]
    rfl
  have hfraction : Numeral.readFraction ('.' :: Text.zeroPad k (Nat.toDigits 10 m)) =
      (some places, []) := by
    rw [← hvalues, ← Numeral.readFraction_row hrow rfl, List.append_nil]
  refine ⟨⟨negative, Text.decimalDigits q, some places, none⟩, ?_, rfl, rfl, ?_, ?_⟩
  · rw [List.append_assoc]
    exact Numeral.read?_parts negative (Text.isRow_toDigits q) Nat.toDigits_ne_nil rfl hfraction rfl
  · simp only [Numeral.coefficient, Option.getD_some, Text.positional_append, hvalue, hplaces,
      Text.positional_decimalDigits]
  · simp [Numeral.scale, hplaces]

namespace Binary64

theorem pow_ne_zero {b : Nat} (hb : 0 < b) (k : Nat) : b ^ k ≠ 0 := Nat.ne_of_gt (Nat.pow_pos hb)

theorem units_ne_zero (x : Binary64) (hx : x.significand ≠ 0) : x.units ≠ 0 :=
  Nat.mul_ne_zero hx (pow_ne_zero (by decide) _)

/-- Rounding a quotient without remainder. -/
theorem roundDiv_mul (a : Nat) {d : Nat} (hd : 0 < d) : roundDiv (a * d) d = a := by
  rw [roundDiv, Nat.mul_div_cancel a hd, Nat.mul_mod_left]
  simp [hd]

/-- The power of a double is found again from its magnitude. -/
theorem log2_units (x : Binary64) (hx : x.significand ≠ 0) : x.units.log2 - 52 = x.power := by
  obtain ⟨hlt, hnorm, -⟩ := x.canonical
  have hne : x.units ≠ 0 := x.units_ne_zero hx
  rcases hnorm with hge | hzero
  · have hlog : x.units.log2 = 52 + x.power := by
      rw [Nat.log2_eq_iff hne, units]
      constructor
      · rw [Nat.pow_add]
        exact Nat.mul_le_mul_right _ hge
      · rw [show 52 + x.power + 1 = 53 + x.power from by omega, Nat.pow_add]
        exact Nat.mul_lt_mul_of_pos_right hlt (Nat.pow_pos (by decide))
    omega
  · have hlog : x.units.log2 < 53 := by
      rw [Nat.log2_lt hne, units, hzero]
      simpa using hlt
    omega

/-- A ratio that is exactly a double is rounded to that double. -/
theorem ofRatio?_exact (x : Binary64) (hx : x.significand ≠ 0) {num den : Nat} (hden : 0 < den)
    (h : num * unitsPerOne = x.units * den) : ofRatio? x.negative num den = some x := by
  have hround : roundDiv (num * unitsPerOne) (den * 2 ^ x.power) = x.significand := by
    rw [h, units, Nat.mul_assoc, Nat.mul_comm (2 ^ x.power) den]
    exact roundDiv_mul _ (Nat.mul_pos hden (Nat.pow_pos (by decide)))
  have hquot : num * unitsPerOne / den = x.units := by rw [h, Nat.mul_div_cancel _ hden]
  have hne : x.significand ≠ 2 ^ 53 := Nat.ne_of_lt x.canonical.1
  rw [ofRatio?]
  simp only [hquot, log2_units x hx, hround]
  rw [ofRounded?, if_neg hne, ofParts?, dif_pos x.canonical]

/-- The coefficient of the exact expansion: all units, each worth `5 ^ k` of the last place. -/
theorem units_expansion (u : Nat) {k : Nat} (hunits : unitsPerOne = 2 ^ k) :
    u / unitsPerOne * 10 ^ k + u % unitsPerOne * 5 ^ k = u * 5 ^ k := by
  have h10 : (10 : Nat) ^ k = 2 ^ k * 5 ^ k := by rw [← Nat.mul_pow]
  rw [hunits, h10, ← Nat.mul_assoc, ← Nat.add_mul, Nat.mul_comm (u / 2 ^ k), Nat.div_add_mod]

/-- The places behind the point suffice for the part of the units below one. -/
theorem remainder_lt (u : Nat) {k : Nat} (hunits : unitsPerOne = 2 ^ k) :
    u % unitsPerOne * 5 ^ k < 10 ^ k := by
  have h10 : (10 : Nat) ^ k = 2 ^ k * 5 ^ k := by rw [← Nat.mul_pow]
  rw [h10, hunits]
  apply Nat.mul_lt_mul_of_pos_right (Nat.mod_lt _ (Nat.pow_pos (by decide)))
  exact Nat.pow_pos (by decide)

/-- A coefficient in units of `5 ^ k` is large enough for its scale not to count as out of range. -/
theorem scale_in_range {u k : Nat} (hu : u ≠ 0) : k ≤ 400 + (u * 5 ^ k).log2 := by
  have h5 : 2 ^ k ≤ 5 ^ k := Nat.pow_le_pow_left (by decide) k
  have hle : 2 ^ k ≤ u * 5 ^ k := Nat.le_trans h5 (Nat.le_mul_of_pos_left _ (Nat.pos_of_ne_zero hu))
  have hne : u * 5 ^ k ≠ 0 := Nat.mul_ne_zero hu (pow_ne_zero (by decide) k)
  have := (Nat.le_log2 hne).2 hle
  omega

/-- The decimal `units · 5 ^ 1074 · 10 ^ -1074` is the double itself. -/
theorem ofDecimal?_exact (x : Binary64) (hx : x.significand ≠ 0) {k : Nat} (hk : 0 < k)
    (hunits : unitsPerOne = 2 ^ k) :
    ofDecimal? x.negative (x.units * 5 ^ k) (-(k : Int)) = some x := by
  have hu : x.units ≠ 0 := x.units_ne_zero hx
  have hne : x.units * 5 ^ k ≠ 0 := Nat.mul_ne_zero hu (pow_ne_zero (by decide) k)
  have hrange := scale_in_range (k := k) hu
  rw [ofDecimal?, if_neg hne, if_neg (by omega), if_neg (by omega), if_neg (by omega), Int.neg_neg,
    Int.toNat_natCast]
  apply ofRatio?_exact x hx (Nat.pow_pos (by decide))
  rw [hunits, Nat.mul_assoc, ← Nat.mul_pow]

/-- **The exact expansion reads back.**  It is what `text` falls back on. -/
theorem readsBack_exactText (x : Binary64) (hx : x.significand ≠ 0) : x.ReadsBack x.exactText := by
  have hunits : unitsPerOne = 2 ^ 1074 := by rw [unitsPerOne]
  have hplace := remainder_lt x.units hunits
  obtain ⟨n, hread, hwhole, hneg, hcoef, hscale⟩ :=
    Numeral.read?_places x.negative (x.units / unitsPerOne) _ 1074 (by decide) hplace
  have hdouble : n.double = .finite x := by
    rw [Numeral.double, hneg, hcoef, hscale, units_expansion x.units hunits,
      ofDecimal?_exact x hx (by decide) hunits]
  rw [ReadsBack, Double.read?, exactText, hread]
  simp [hwhole, hdouble]

/-- A zero has one candidate, and that one reads back. -/
theorem readsBack_zero (negative : Bool) : (zero negative).ReadsBack (zero negative).text := by
  cases negative <;> decide

/-- **Every double reads back from its text.** -/
theorem readsBack_text (x : Binary64) : x.ReadsBack x.text := by
  by_cases hx : x.significand = 0
  · -- the two zeros have no exact expansion to fall back on, but their only candidate will do
    obtain ⟨negative, significand, power, hcan⟩ := x
    subst hx
    obtain rfl : power = 0 := by
      rcases hcan.2.1 with h | h
      · omega
      · exact h
    cases negative
    · exact readsBack_zero false
    · exact readsBack_zero true
  · rw [text]
    cases h : x.candidates.find? (x.ReadsBack ·) with
    | some t =>
      have ht := List.find?_some h
      exact of_decide_eq_true ht
    | none => exact readsBack_exactText x hx

end Binary64

end QueryFilter
