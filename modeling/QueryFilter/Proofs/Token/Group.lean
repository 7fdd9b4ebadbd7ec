/-
  INSIDE A GROUP — what a text does to the scan for a closing parenthesis.

  1. **State** — the scan for the end of a group carries a depth and perhaps an open quote.
     `inside depth quote t` is that state behind `t`, and `none` if the group is over before
     that.  States compose along `++` (`inside_append`), which the scan itself, with its
     text and rest, does not show.
  2. **Balanced texts** — those which lead from depth 0 outside quotes back to it.  Groups are
     exactly the balanced texts in parentheses: `group?_eq_some_iff`.
  3. **Which texts are balanced** — words are, and so is every quoted literal, whatever it holds:
     the scan toggles at each quote, and a doubled quote toggles twice (`balanced_quote`).  Without
     quotes only the parentheses count (`inside_filter`).
-/
import QueryFilter.Proofs.Literal.ReadWrite
import QueryFilter.Token.Scan

namespace QueryFilter.Token

/-! ## The state of the scan -/

/-- How many further groups are open behind a text inside a group, and which quote is; `none` if the
    group is closed within the text. -/
def inside : Nat → Option Char → Text → Option (Nat × Option Char)
  | depth, quote, [] => some (depth, quote)
  | depth, some q, c :: s => inside depth (nextQuote (some q) c) s
  | depth, none, c :: s =>
    if c = '(' then inside (depth + 1) none s
    else if c = ')' then
      match depth with
      | 0 => none
      | depth + 1 => inside depth none s
    else inside depth (nextQuote none c) s

@[simp] theorem inside_nil (depth : Nat) (quote : Option Char) :
    inside depth quote [] = some (depth, quote) := by
  cases quote <;> rfl

@[simp] theorem inside_opening (depth : Nat) (s : Text) :
    inside depth none ('(' :: s) = inside (depth + 1) none s := by
  simp [inside]

@[simp] theorem inside_closing_succ (depth : Nat) (s : Text) :
    inside (depth + 1) none (')' :: s) = inside depth none s := by
  simp [inside]

@[simp] theorem inside_closing_zero (s : Text) : inside 0 none (')' :: s) = none := by
  simp [inside]

/-- Outside quotes, any other character than a parenthesis changes at most the quote. -/
theorem inside_other {depth : Nat} {c : Char} {s : Text} (h₁ : c ≠ '(') (h₂ : c ≠ ')') :
    inside depth none (c :: s) = inside depth (nextQuote none c) s := by
  simp [inside, h₁, h₂]

/-- The state behind two texts is the state behind the second, from where the first one ends. -/
theorem inside_append (depth : Nat) (quote : Option Char) (s t : Text) :
    inside depth quote (s ++ t) =
      (inside depth quote s).bind fun (depth, quote) => inside depth quote t := by
  fun_induction inside depth quote s with
  | case1 depth quote => rfl
  | case2 depth q c s ih => rw [List.cons_append, inside, ih]
  | case3 depth s ih => rw [List.cons_append, inside_opening, ih]
  | case4 s => rw [List.cons_append, inside_closing_zero, Option.bind_none]
  | case5 s depth _ ih => rw [List.cons_append, inside_closing_succ, ih]
  | case6 depth c s h₁ h₂ ih => rw [List.cons_append, inside_other h₁ h₂, ih]

/-- More groups around a text change nothing about it. -/
theorem inside_add {depth depth' : Nat} {quote quote' : Option Char} {s : Text} (k : Nat)
    (h : inside depth quote s = some (depth', quote')) :
    inside (depth + k) quote s = some (depth' + k, quote') := by
  fun_induction inside depth quote s with
  | case1 depth quote =>
    cases h
    exact inside_nil _ _
  | case2 depth q c s ih => rw [inside, ih h]
  | case3 depth s ih =>
    rw [inside_opening, show depth + k + 1 = depth + 1 + k from by omega, ih h]
  | case4 s => cases h
  | case5 s depth _ ih =>
    show inside (depth + 1 + k) none (')' :: s) = _
    rw [show depth + 1 + k = depth + k + 1 from by omega, inside_closing_succ, ih h]
  | case6 depth c s h₁ h₂ ih => rw [inside_other h₁ h₂, ih h]

/-! ## Groups are balanced texts in parentheses -/

/-- A text that can stand between the parentheses of a group. -/
def Balanced (s : Text) : Prop := inside 0 none s = some (0, none)

theorem after_after (s t : Text) (scanned : Scanned) :
    after s (after t scanned) = after (s ++ t) scanned := by
  cases scanned <;> simp [after]

theorem closeGroup_opening (depth : Nat) (s : Text) :
    closeGroup depth none ('(' :: s) = after ['('] (closeGroup (depth + 1) none s) := by
  simp [closeGroup]

theorem closeGroup_closing_succ (depth : Nat) (s : Text) :
    closeGroup (depth + 1) none (')' :: s) = after [')'] (closeGroup depth none s) := by
  simp [closeGroup]

theorem closeGroup_other {depth : Nat} {c : Char} {s : Text} (h₁ : c ≠ '(') (h₂ : c ≠ ')') :
    closeGroup depth none (c :: s) = after [c] (closeGroup depth (nextQuote none c) s) := by
  simp [closeGroup, h₁, h₂]

/-- The scan for the closing parenthesis goes on behind a text that does not hold it. -/
theorem closeGroup_append_of_inside {depth depth' : Nat} {quote quote' : Option Char} {s : Text}
    (h : inside depth quote s = some (depth', quote')) (r : Text) :
    closeGroup depth quote (s ++ r) = after s (closeGroup depth' quote' r) := by
  fun_induction inside depth quote s with
  | case1 depth quote =>
    cases h
    rw [List.nil_append]
    cases closeGroup depth' quote' r <;> rfl
  | case2 depth q c s ih =>
    rw [List.cons_append, closeGroup, ih h, after_after, List.singleton_append]
  | case3 depth s ih =>
    rw [List.cons_append, closeGroup_opening, ih h, after_after, List.singleton_append]
  | case4 s => cases h
  | case5 s depth _ ih =>
    rw [List.cons_append, closeGroup_closing_succ, ih h, after_after, List.singleton_append]
  | case6 depth c s h₁ h₂ ih =>
    rw [List.cons_append, closeGroup_other h₁ h₂, ih h, after_after, List.singleton_append]

/-- What the scan reads is a text that closes all further groups, and one parenthesis more. -/
theorem inside_of_closeGroup {depth : Nat} {quote : Option Char} {s t r : Text}
    (h : closeGroup depth quote s = some (t, r)) :
    ∃ u, t = u ++ [')'] ∧ inside depth quote u = some (0, none) := by
  -- the last parenthesis is the one that closes the group itself; all before it are in `u`
  fun_induction closeGroup depth quote s generalizing t with
  | case1 => cases h
  | case2 depth q c s ih =>
    obtain ⟨v, hv, rfl⟩ := after_eq_some_iff.1 h
    obtain ⟨u, rfl, hu⟩ := ih hv
    exact ⟨c :: u, rfl, hu⟩
  | case3 depth s ih =>
    obtain ⟨v, hv, rfl⟩ := after_eq_some_iff.1 h
    obtain ⟨u, rfl, hu⟩ := ih hv
    exact ⟨'(' :: u, rfl, by rw [inside_opening, hu]⟩
  | case4 s _ =>
    cases h
    exact ⟨[], rfl, rfl⟩
  | case5 s _ depth ih =>
    obtain ⟨v, hv, rfl⟩ := after_eq_some_iff.1 h
    obtain ⟨u, rfl, hu⟩ := ih hv
    exact ⟨')' :: u, rfl, by rw [inside_closing_succ, hu]⟩
  | case6 depth c s h₁ h₂ ih =>
    obtain ⟨v, hv, rfl⟩ := after_eq_some_iff.1 h
    obtain ⟨u, rfl, hu⟩ := ih hv
    exact ⟨c :: u, rfl, by rw [inside_other h₁ h₂, hu]⟩

/-- The scan finds no closing parenthesis exactly if the whole text leaves it inside. -/
theorem closeGroup_eq_none_iff {depth : Nat} {quote : Option Char} {s : Text} :
    closeGroup depth quote s = none ↔ ∃ state, inside depth quote s = some state := by
  constructor
  · intro h
    fun_induction inside depth quote s with
    | case1 depth quote => exact ⟨_, rfl⟩
    | case2 depth q c s ih => exact ih (after_eq_none_iff.1 h)
    | case3 depth s ih =>
      rw [closeGroup_opening, after_eq_none_iff] at h
      exact ih h
    | case4 s => cases h
    | case5 s depth _ ih =>
      rw [closeGroup_closing_succ, after_eq_none_iff] at h
      exact ih h
    | case6 depth c s h₁ h₂ ih =>
      rw [closeGroup_other h₁ h₂, after_eq_none_iff] at h
      exact ih h
  · rintro ⟨⟨depth', quote'⟩, h⟩
    have hall := closeGroup_append_of_inside h []
    rw [List.append_nil] at hall
    rw [hall, after_eq_none_iff]
    cases quote' <;> rfl

/-- **A group is a balanced text in parentheses**, and what follows it does not matter. -/
theorem group?_eq_some_iff {s t r : Text} :
    group? s = some (t, r) ↔ ∃ u, Balanced u ∧ t = '(' :: (u ++ [')']) ∧ s = t ++ r := by
  constructor
  · intro h
    have hs := (group?_append h).2.symm
    unfold group? at h
    split at h
    · obtain ⟨v, hv, rfl⟩ := after_eq_some_iff.1 h
      obtain ⟨u, rfl, hu⟩ := inside_of_closeGroup hv
      exact ⟨u, hu, rfl, hs⟩
    · cases h
  · rintro ⟨u, hu, rfl, rfl⟩
    have hclose : closeGroup 0 none (')' :: r) = some ([')'], r) := rfl
    show group? ('(' :: (u ++ [')'] ++ r)) = _
    rw [group?, List.append_assoc, closeGroup_append_of_inside hu, List.singleton_append, hclose]
    rfl

theorem group?_of_balanced {u : Text} (h : Balanced u) (r : Text) :
    group? ('(' :: (u ++ ')' :: r)) = some ('(' :: (u ++ [')']), r) :=
  group?_eq_some_iff.2 ⟨u, h, rfl, by simp⟩

/-! ## Balanced texts -/

theorem balanced_nil : Balanced [] := rfl

theorem Balanced.append {s t : Text} (hs : Balanced s) (ht : Balanced t) : Balanced (s ++ t) := by
  rw [Balanced, inside_append, hs]
  exact ht

/-- A group inside a text does not disturb its balance. -/
theorem Balanced.parenthesize {s : Text} (hs : Balanced s) : Balanced ('(' :: (s ++ [')'])) := by
  have hdeep : inside 1 none s = some (1, none) := inside_add 1 hs
  rw [Balanced, inside_opening, inside_append, hdeep]
  rfl

/-- A character that means nothing to the scan. -/
def Neutral (c : Char) : Prop := c ≠ '(' ∧ c ≠ ')' ∧ c ≠ '\'' ∧ c ≠ '"'

theorem inside_neutral {c : Char} (hc : Neutral c) (depth : Nat) (s : Text) :
    inside depth none (c :: s) = inside depth none s := by
  obtain ⟨h₁, h₂, h₃, h₄⟩ := hc
  rw [inside_other h₁ h₂, nextQuote, if_neg]
  rintro (h | h)
  · exact h₃ h
  · exact h₄ h

theorem balanced_of_neutral {s : Text} (h : ∀ c ∈ s, Neutral c) : Balanced s := by
  induction s with
  | nil => exact balanced_nil
  | cons c s ih =>
    rw [Balanced, inside_neutral (h c (List.mem_cons_self ..))]
    exact ih fun d hd => h d (List.mem_cons_of_mem _ hd)

/-- Characters that mean nothing to the scan may be put in front of a text, or taken off. -/
theorem balanced_neutral_append {s t : Text} (h : ∀ c ∈ s, Neutral c) :
    Balanced (s ++ t) ↔ Balanced t := by
  have hs : inside 0 none s = some (0, none) := balanced_of_neutral h
  rw [Balanced, inside_append, hs]
  exact Iff.rfl

/-- Within single quotes, a text with its quotes doubled leads back into the quotes. -/
theorem inside_doubleQuotes (depth : Nat) (s : Text) :
    inside depth (some '\'') (Literal.doubleQuotes s) = some (depth, some '\'') := by
  induction s with
  | nil => exact inside_nil _ _
  | cons c s ih =>
    by_cases hc : c = '\''
    · -- the first quote of the pair ends the quoted stretch, the second one starts the next
      subst hc
      rw [Literal.doubleQuotes_cons_quote, inside, nextQuote, if_pos rfl,
        inside_other (by decide) (by decide), nextQuote, if_pos (Or.inl rfl), ih]
    · rw [Literal.doubleQuotes_cons_of_ne hc, inside, nextQuote, if_neg hc, ih]

/-- **A quoted literal is balanced, whatever it holds.** -/
theorem balanced_quote (s : Text) : Balanced (Literal.quote s) := by
  show inside 0 none ('\'' :: (Literal.doubleQuotes s ++ ['\''])) = _
  rw [inside_other (by decide) (by decide), nextQuote, if_pos (Or.inl rfl), inside_append,
    inside_doubleQuotes]
  rfl

/-! ## Texts without quotes -/

/-- Neither quote occurs in the text. -/
def QuoteFree (s : Text) : Prop := ∀ c ∈ s, c ≠ '\'' ∧ c ≠ '"'

theorem QuoteFree.sublist {s t : Text} (hs : QuoteFree s) (h : t.Sublist s) : QuoteFree t :=
  fun c hc => hs c (h.subset hc)

/-- One of the two parentheses. -/
def isParenthesis (c : Char) : Bool := c == '(' || c == ')'

/-- Without quotes, the scan sees the parentheses of a text and nothing else. -/
theorem inside_filter {s : Text} (hs : QuoteFree s) (depth : Nat) :
    inside depth none s = inside depth none (s.filter isParenthesis) := by
  induction s generalizing depth with
  | nil => rfl
  | cons c s ih =>
    have ihs := ih fun d hd => hs d (List.mem_cons_of_mem _ hd)
    by_cases h₁ : c = '('
    · subst h₁
      rw [List.filter_cons_of_pos (by decide), inside_opening, inside_opening, ihs]
    · by_cases h₂ : c = ')'
      · subst h₂
        rw [List.filter_cons_of_pos (by decide)]
        cases depth with
        | zero => rfl
        | succ depth => rw [inside_closing_succ, inside_closing_succ, ihs]
      · have hc := hs c (List.mem_cons_self ..)
        rw [List.filter_cons_of_neg (by simp [isParenthesis, h₁, h₂]),
          inside_neutral ⟨h₁, h₂, hc.1, hc.2⟩, ihs]

/-- Two texts without quotes and with the same parentheses are balanced together. -/
theorem Balanced.of_filter_eq {s t : Text} (h : Balanced s) (hs : QuoteFree s) (ht : QuoteFree t)
    (heq : t.filter isParenthesis = s.filter isParenthesis) : Balanced t := by
  rw [Balanced, inside_filter ht, heq, ← inside_filter hs]
  exact h

end QueryFilter.Token
