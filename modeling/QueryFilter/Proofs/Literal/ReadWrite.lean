/-
  LITERALS READ AND WRITTEN — what a token stands for always has a text, and that text stands for
  the same.

  1. **Writing never fails on what was read** (`exists_write_read`): a token is read as an integer
     or a double only within the limits of writing.
  2. **Reading undoes writing** (`read_quote`, `read_numeral`, `read_text`): left to right, two
     quotes collapse to the one that was doubled; a numeral is read back as its number.
  3. **Canonical texts** — those which writing gives back unchanged.  Whatever a token
     is rewritten to is canonical (`canonical_of_write_read`), so that a second reading
     and writing changes nothing.
-/
import QueryFilter.Literal
import QueryFilter.Proofs.Number.ReadBack

namespace QueryFilter.Literal

/-! ## Quoted texts -/

theorem doubleQuotes_cons_quote (s : Text) :
    doubleQuotes ('\'' :: s) = '\'' :: '\'' :: doubleQuotes s := rfl

theorem doubleQuotes_cons_of_ne {c : Char} (h : c ≠ '\'') (s : Text) :
    doubleQuotes (c :: s) = c :: doubleQuotes s := by
  simp [doubleQuotes, h]

theorem collapse_cons_of_ne {q c : Char} (h : c ≠ q) (s : Text) :
    collapse q (c :: s) = c :: collapse q s := by
  cases s with
  | nil => rfl
  | cons d s => rw [collapse, if_neg fun hcd => h hcd.1]

/-- Collapsing from the left finds exactly the pairs that doubling made. -/
theorem collapse_doubleQuotes (s : Text) : collapse '\'' (doubleQuotes s) = s := by
  induction s with
  | nil => rfl
  | cons c s ih =>
    by_cases hc : c = '\''
    · subst hc
      rw [doubleQuotes_cons_quote, collapse, if_pos ⟨rfl, rfl⟩, ih]
    · rw [doubleQuotes_cons_of_ne hc, collapse_cons_of_ne hc, ih]

theorem unquote?_quote (s : Text) : unquote? (quote s) = some ('\'', doubleQuotes s) := by
  have hlast : Text.dropLast? '\'' (doubleQuotes s ++ ['\'']) = some (doubleQuotes s) :=
    Text.dropLast?_eq_some_iff.2 rfl
  show unquote? ('\'' :: (doubleQuotes s ++ ['\''])) = _
  rw [unquote?, if_pos (Or.inl rfl), hlast]
  rfl

/-- Different texts are quoted differently. -/
theorem quote_injective {s t : Text} (h : quote s = quote t) : s = t := by
  have hinner := congrArg unquote? h
  rw [unquote?_quote, unquote?_quote, Option.some.injEq, Prod.mk.injEq] at hinner
  rw [← collapse_doubleQuotes s, ← collapse_doubleQuotes t, hinner.2]

/-- A quoted text is read as that text. -/
theorem read_quote (s : Text) : read .doubled (quote s) = .text s := by
  rw [read, unquote?_quote]
  simp only [collapse_doubleQuotes]

/-- What does not start with a quote is not quoted. -/
theorem unquote?_eq_none {c : Char} {s : Text} (h₁ : c ≠ '\'') (h₂ : c ≠ '"') :
    unquote? (c :: s) = none := by
  rw [unquote?, if_neg]
  rintro (h | h)
  · exact h₁ h
  · exact h₂ h

/-! ## Numbers -/

/-- No character of a numeral is a quote. -/
theorem not_quote_of_inNumeral {c : Char} (h : Numeral.InNumeral c) : c ≠ '\'' ∧ c ≠ '"' := by
  constructor
  all_goals
    rintro rfl
    revert h
    simp only [Numeral.InNumeral]
    decide

/-- A numeral is not quoted. -/
theorem unquote?_of_read? {t : Text} {n : Numeral} (h : Numeral.read? t = some n) :
    unquote? t = none := by
  cases t with
  | nil => rfl
  | cons c s =>
    obtain ⟨h₁, h₂⟩ := not_quote_of_inNumeral (Numeral.mem_of_read? h c (List.mem_cons_self ..))
    exact unquote?_eq_none h₁ h₂

/-- A numeral within the limits is read as its number, under both policies. -/
theorem read_of_ofNumeral? (policy : QuotePolicy) {t : Text} {n : Numeral} {v : Literal}
    (hn : Numeral.read? t = some n) (hv : ofNumeral? n = some v) : read policy t = v := by
  rw [read, unquote?_of_read? hn]
  simp [hn, hv]

theorem read_numeral (policy : QuotePolicy) {n : Int}
    (h : (Nat.toDigits 10 n.natAbs).length ≤ Integer.digitLimit) :
    read policy (Integer.numeral n) = .int n := by
  apply read_of_ofNumeral? policy (Numeral.read?_numeral n)
  have hwhole : Numeral.isWhole ⟨decide (n < 0), Text.decimalDigits n.natAbs, none, none⟩ = true :=
    rfl
  rw [ofNumeral?, if_pos hwhole, Numeral.integer_decimalDigits, if_pos]
  rw [Text.length_decimalDigits]
  exact h

/-- The text of a double is read as that double. -/
theorem read_text (policy : QuotePolicy) (x : Binary64) :
    read policy x.text = .double (.finite x) := by
  have h : Double.read? x.text = some (.finite x) := x.readsBack_text
  obtain ⟨n, hn, hd⟩ := Option.bind_eq_some_iff.1 h
  apply read_of_ofNumeral? policy hn
  cases hw : n.isWhole with
  | true => simp [hw] at hd
  | false =>
    simp only [hw, Bool.false_eq_true, if_false, Option.some.injEq] at hd
    simp [ofNumeral?, hw, hd]

/-- The text of a double is a numeral. -/
theorem exists_read?_text (x : Binary64) : ∃ n, Numeral.read? x.text = some n := by
  have h : Double.read? x.text = some (.finite x) := x.readsBack_text
  obtain ⟨n, hn, -⟩ := Option.bind_eq_some_iff.1 h
  exact ⟨n, hn⟩

/-! ## What was read can be written -/

/-- A token is a quoted text, a number within the limits, or raw. -/
theorem read_cases (policy : QuotePolicy) (t : Text) :
    (∃ q inner s, unquote? t = some (q, inner) ∧ read policy t = .text s) ∨
    (∃ n v, Numeral.read? t = some n ∧ ofNumeral? n = some v ∧ read policy t = v) ∨
    (unquote? t = none ∧ (Numeral.read? t).bind ofNumeral? = none ∧ read policy t = .raw t) := by
  cases hq : unquote? t with
  | some p =>
    obtain ⟨q, inner⟩ := p
    refine Or.inl ⟨q, inner, ?_⟩
    rw [read, hq]
    cases policy with
    | doubled => exact ⟨collapse q inner, rfl, rfl⟩
    | literal => exact ⟨inner, rfl, rfl⟩
  | none =>
    right
    cases hn : (Numeral.read? t).bind ofNumeral? with
    | some v =>
      obtain ⟨n, hread, hv⟩ := Option.bind_eq_some_iff.1 hn
      exact Or.inl ⟨n, v, hread, hv, read_of_ofNumeral? policy hread hv⟩
    | none =>
      refine Or.inr ⟨rfl, rfl, ?_⟩
      rw [read, hq]
      simp [hn]

/-- A whole numeral within the limit is written as its integer. -/
theorem write_read_whole (policy : QuotePolicy) {t : Text} {n : Numeral}
    (hn : Numeral.read? t = some n) (hwhole : n.isWhole = true)
    (hlen : n.whole.length ≤ Integer.digitLimit) :
    (read policy t).write = .ok (Integer.numeral n.integer) := by
  have hv : ofNumeral? n = some (.int n.integer) := by rw [ofNumeral?, if_pos hwhole, if_pos hlen]
  rw [read_of_ofNumeral? policy hn hv, write, Integer.text?_integer hn hwhole hlen]
  rfl

/-- **What is beyond the limits keeps its text.** -/
theorem write_of_ofNumeral?_eq_none (policy : QuotePolicy) {t : Text} {n : Numeral}
    (hn : Numeral.read? t = some n) (hv : ofNumeral? n = none) : (read policy t).write = .ok t := by
  have hraw : read policy t = .raw t := by
    rw [read, unquote?_of_read? hn]
    simp only [hn, hv, Option.bind_some, Option.getD_none]
  rw [hraw]
  rfl

/-- A number that was read is an integer or a finite double, with a text that is read as the
    same. -/
theorem write_ofNumeral? (policy : QuotePolicy) {t : Text} {n : Numeral} {v : Literal}
    (hn : Numeral.read? t = some n) (hv : ofNumeral? n = some v) :
    ∃ w, v.write = .ok w ∧ read policy w = v ∧ ∃ m, Numeral.read? w = some m := by
  rw [ofNumeral?] at hv
  split at hv
  · rename_i hwhole
    split at hv
    · rename_i hlen
      cases hv
      have htext := Integer.text?_integer hn hwhole hlen
      have hlimit : (Nat.toDigits 10 n.integer.natAbs).length ≤ Integer.digitLimit := by
        rw [Integer.text?] at htext
        split at htext
        · assumption
        · cases htext
      -- the limit counts the digits that were read, so it holds for those that are written
      refine ⟨Integer.numeral n.integer, ?_, read_numeral policy hlimit, _, Numeral.read?_numeral _⟩
      rw [write, htext]
      rfl
    · cases hv
  · split at hv
    · rename_i x hx
      cases hv
      exact ⟨x.text, rfl, read_text policy x, exists_read?_text x⟩
    · cases hv

/-- **What a token stands for has a text**, under both policies. -/
theorem exists_write_read (policy : QuotePolicy) (t : Text) :
    ∃ w, (read policy t).write = .ok w := by
  rcases read_cases policy t with ⟨q, inner, s, -, hr⟩ | ⟨n, v, hn, hv, hr⟩ | ⟨-, -, hr⟩
  · exact ⟨quote s, by rw [hr]; rfl⟩
  · obtain ⟨w, hw, -⟩ := write_ofNumeral? policy hn hv
    exact ⟨w, by rw [hr, hw]⟩
  · exact ⟨t, by rw [hr]; rfl⟩

/-! ## Canonical texts -/

/-- A text that reading and writing leave as it is. -/
def Canonical (t : Text) : Prop := (read .doubled t).write = .ok t

theorem canonical_quote (s : Text) : Canonical (quote s) := by
  rw [Canonical, read_quote]
  rfl

/-- A token that stands for itself is canonical. -/
theorem canonical_of_raw {t : Text} (hq : unquote? t = none) (hn : Numeral.read? t = none) :
    Canonical t := by
  rw [Canonical, read, hq]
  simp only [hn]
  rfl

theorem canonical_numeral {n : Int}
    (h : (Nat.toDigits 10 n.natAbs).length ≤ Integer.digitLimit) :
    Canonical (Integer.numeral n) := by
  rw [Canonical, read_numeral .doubled h, write, Integer.text?, if_pos h]
  rfl

/-- **Reading and writing once is enough.** -/
theorem canonical_of_write_read {t w : Text} (h : (read .doubled t).write = .ok w) :
    Canonical w := by
  rcases read_cases .doubled t with ⟨q, inner, s, -, hr⟩ | ⟨n, v, hn, hv, hr⟩ | ⟨-, -, hr⟩
  · rw [hr] at h
    cases h
    exact canonical_quote s
  · obtain ⟨w', hw', hread, -⟩ := write_ofNumeral? .doubled hn hv
    rw [hr, hw'] at h
    cases h
    rw [Canonical, hread, hw']
  · have ht : w = t := by
      rw [hr] at h
      cases h
      rfl
    rw [ht] at h ⊢
    exact h

/-- A token without quotes is rewritten to a numeral, or not at all. -/
theorem write_read_cases {policy : QuotePolicy} {t w : Text} (hq : unquote? t = none)
    (h : (read policy t).write = .ok w) : w = t ∨ ∃ n m, Numeral.read? t = some n ∧
      Numeral.read? w = some m := by
  rcases read_cases policy t with ⟨q, inner, s, hq', -⟩ | ⟨n, v, hn, hv, hr⟩ | ⟨-, -, hr⟩
  · rw [hq] at hq'
    cases hq'
  · obtain ⟨w', hw', -, m, hm⟩ := write_ofNumeral? policy hn hv
    rw [hr, hw'] at h
    cases h
    exact Or.inr ⟨n, m, hn, hm⟩
  · rw [hr] at h
    cases h
    exact Or.inl rfl

end QueryFilter.Literal
