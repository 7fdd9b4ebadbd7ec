/-
  DIGITS WRITTEN AND READ — the number behind a row of digits.

  1. **Value** — `positional` is the usual polynomial: appending a row shifts what stands before it,
     and a row of `k` digits denotes a number below `10 ^ k`.
  2. **Reading** — `digits` takes off the longest run, and every value it returns is below ten.
  3. **Written digits** — a text of the characters `'0'` to `'9'` (`IsRow`) is read as its `values`.
  4. **Round trip** — the base-ten text of a number is read back as digits of exactly that number,
     and zeros in front of it change nothing.
-/
import QueryFilter.Number.Numeral

namespace QueryFilter.Text

/-! ## The value of a row of digits -/

/-- Starting the fold at `n` shifts `n` past the whole row. -/
theorem foldl_positional (ds : List Nat) (n : Nat) :
    ds.foldl (fun m d => 10 * m + d) n = n * 10 ^ ds.length + positional ds := by
  induction ds generalizing n with
  | nil => simp [positional]
  | cons d ds ih =>
    have hd : positional (d :: ds) = d * 10 ^ ds.length + positional ds := by
      rw [positional, List.foldl_cons, ih]
      simp
    rw [List.foldl_cons, ih, hd, List.length_cons, Nat.pow_succ]
    have hmul : (10 * n + d) * 10 ^ ds.length = n * (10 ^ ds.length * 10) + d * 10 ^ ds.length := by
      rw [Nat.add_mul, Nat.mul_comm 10 n, Nat.mul_assoc, Nat.mul_comm 10]
    omega

theorem positional_cons (d : Nat) (ds : List Nat) :
    positional (d :: ds) = d * 10 ^ ds.length + positional ds := by
  rw [positional, List.foldl_cons, foldl_positional]
  simp

/-- The digits of a row count by the length of what follows it. -/
theorem positional_append (ds es : List Nat) :
    positional (ds ++ es) = positional ds * 10 ^ es.length + positional es := by
  rw [positional, List.foldl_append, foldl_positional]
  rfl

theorem positional_replicate_zero (k : Nat) : positional (List.replicate k 0) = 0 := by
  induction k with
  | zero => rfl
  | succ k ih => rw [List.replicate_succ, positional_cons, ih]; simp

/-- A row of `k` digits denotes a number below `10 ^ k`. -/
theorem positional_lt {ds : List Nat} (h : ∀ d ∈ ds, d < 10) : positional ds < 10 ^ ds.length := by
  induction ds with
  | nil => decide
  | cons d ds ih =>
    have hd : d < 10 := h d (List.mem_cons_self ..)
    have htail := ih fun e he => h e (List.mem_cons_of_mem _ he)
    rw [positional_cons, List.length_cons, Nat.pow_succ]
    have hle : d * 10 ^ ds.length ≤ 9 * 10 ^ ds.length := Nat.mul_le_mul_right _ (by omega)
    omega

/-! ## Reading digits -/

/-- Whatever the run of digits is, its values are below ten. -/
theorem lt_ten_of_mem_digits {s : Text} {d : Nat} (h : d ∈ (digits s).1) : d < 10 := by
  induction s with
  | nil => simp [digits] at h
  | cons c s ih =>
    rw [digits] at h
    split at h
    · rename_i e he
      rcases List.mem_cons.1 h with hd | hd
      · exact hd ▸ digit?_lt_ten he
      · exact ih hd
    · simp at h

/-- The run of digits and what follows it are the whole text. -/
theorem digits_append (s : Text) :
    ∃ run, run ++ (digits s).2 = s ∧ ∀ c ∈ run, (digit? c).isSome := by
  induction s with
  | nil => exact ⟨[], rfl, by simp⟩
  | cons c s ih =>
    obtain ⟨run, hrun, hall⟩ := ih
    rw [digits]
    split
    · rename_i d hd
      refine ⟨c :: run, by simp [hrun], ?_⟩
      intro e he
      rcases List.mem_cons.1 he with rfl | he
      · simp [hd]
      · exact hall e he
    · exact ⟨[], rfl, by simp⟩

/-- A run that ends at a character which is no digit is read as far as that. -/
theorem digits_run {run : Text} {ds : List Nat} {rest : Text} (hrun : run.map digit? = ds.map some)
    (hrest : (digits rest).1 = []) : digits (run ++ rest) = (ds, rest) := by
  induction run generalizing ds with
  | nil =>
    obtain rfl : ds = [] := by simpa using hrun.symm
    cases rest with
    | nil => rfl
    | cons c s =>
      rw [digits] at hrest
      rw [List.nil_append, digits]
      split
      · rename_i d hd
        simp [hd] at hrest
      · rfl
  | cons c run ih =>
    cases ds with
    | nil => simp at hrun
    | cons d ds =>
      simp only [List.map_cons, List.cons.injEq] at hrun
      rw [List.cons_append, digits, hrun.1]
      simp [ih hrun.2]

/-! ## Written digits -/

/-- The ASCII digits are ten in a row. -/
theorem toNat_of_isDigit {c : Char} (h : c.isDigit = true) : 48 ≤ c.toNat ∧ c.toNat < 48 + 10 := by
  simp [Char.isDigit, UInt32.le_iff_toNat_le] at h
  omega

/-- They stand at their distance from `'0'`. -/
theorem digit?_of_isDigit {c : Char} (h : c.isDigit = true) : digit? c = some (c.toNat - 48) := by
  rw [digit?, List.findSome?_cons, if_pos (toNat_of_isDigit h)]

/-- A text of nothing but digits. -/
def IsRow (s : Text) : Prop := ∀ c ∈ s, c.isDigit = true

/-- The digits of a text, as values. -/
def values (s : Text) : List Nat := s.map fun c => c.toNat - 48

variable {s t : Text}

theorem IsRow.append (hs : IsRow s) (ht : IsRow t) : IsRow (s ++ t) := fun c hc =>
  (List.mem_append.1 hc).elim (hs c) (ht c)

theorem isRow_zeros (k : Nat) : IsRow (List.replicate k '0') := fun c hc => by
  rw [List.eq_of_mem_replicate hc]
  decide

theorem isRow_toDigits (n : Nat) : IsRow (Nat.toDigits 10 n) := fun _ hc =>
  Nat.isDigit_of_mem_toDigits (by decide) (by decide) hc

theorem IsRow.map_digit? (hs : IsRow s) : s.map digit? = (values s).map some := by
  rw [values, List.map_map]
  exact List.map_congr_left fun c hc => digit?_of_isDigit (hs c hc)

/-- The digits of a row are below ten. -/
theorem IsRow.values_lt_ten (hs : IsRow s) : ∀ d ∈ values s, d < 10 := by
  intro d hd
  obtain ⟨c, hc, rfl⟩ := List.mem_map.1 hd
  have hlt := (toNat_of_isDigit (hs c hc)).2
  omega

@[simp] theorem values_append (s t : Text) :
    values (s ++ t) = values s ++ values t :=
  List.map_append

@[simp] theorem values_zeros (k : Nat) : values (List.replicate k '0') = List.replicate k 0 :=
  List.map_replicate

@[simp] theorem length_values (s : Text) : (values s).length = s.length := List.length_map ..

/-- The digits of `n`, as values. -/
def decimalDigits (n : Nat) : List Nat := (Nat.toDigits 10 n).map fun c => c.toNat - 48

/-- Reading what was written gives the number back. -/
theorem positional_decimalDigits (n : Nat) : positional (decimalDigits n) = n := by
  have h : Nat.ofDigitChars 10 (Nat.toDigits 10 n) 0 = n := Nat.ofDigitChars_ten_toDigits
  rw [Nat.ofDigitChars_eq_foldl] at h
  rw [positional, decimalDigits, List.foldl_map]
  exact h

theorem length_decimalDigits (n : Nat) : (decimalDigits n).length = (Nat.toDigits 10 n).length :=
  List.length_map ..

end QueryFilter.Text
