/-
  MATCHING PARENTHESES — a group ends at the parenthesis that matches its first one.

  1. **Specification** — `unquoted s`: the characters of `s` outside quotes, where a quote reaches
     to the next one of its sort.  `depth s` counts the parentheses among them.  A text is
     `Enclosed` if it begins with an opening parenthesis and its depth falls back to zero at its
     last character, and nowhere before.
  2. **State against specification** — the depth that the scan for the end of a group carries is the
     depth of what it has passed (`depth_of_inside`), and where it is outside quotes the unquoted
     characters are cut in two (`unquoted_append_of_inside`).
  3. **Groups** — so a balanced text in parentheses is enclosed (`Balanced.enclosed`).
-/
import QueryFilter.Proofs.Token.Group

namespace QueryFilter.Token

/-! ## The specification -/

/-- The characters outside quotes.  A quote, single or double, hides what follows it up to the next
    one of its sort, and everything if there is none. -/
def unquoted : Text → Text
  | [] => []
  | c :: s =>
    if c = '\'' ∨ c = '"' then
      match _h : Text.cut? c s with
      | some (_, rest) => unquoted rest
      | none => []
    else c :: unquoted s
termination_by s => s.length
decreasing_by
  · obtain ⟨-, rfl⟩ := Text.cut?_eq_some_iff.1 _h
    simp only [List.length_append, List.length_cons]
    omega
  · simp

/-- How many parentheses are open behind a text. -/
def depth (s : Text) : Int := (unquoted s).count '(' - (unquoted s).count ')'

/-- The last character closes the parenthesis that is the first one. -/
structure Enclosed (g : Text) : Prop where
  opening : ∃ s, g = '(' :: s
  closing : ∃ v, g = v ++ [')'] ∧ unquoted g = unquoted v ++ [')']
  matched : depth g = 0
  first : ∀ v w, g = v ++ w → v ≠ [] → w ≠ [] → 0 < depth v

theorem unquoted_other {c : Char} (hc : ¬ (c = '\'' ∨ c = '"')) (s : Text) :
    unquoted (c :: s) = c :: unquoted s := by
  rw [unquoted, if_neg hc]

theorem unquoted_closed {c : Char} (hc : c = '\'' ∨ c = '"') {s a b : Text}
    (hcut : Text.cut? c s = some (a, b)) : unquoted (c :: s) = unquoted b := by
  rw [unquoted, if_pos hc]
  split
  · rename_i heq
    rw [hcut] at heq
    cases heq
    rfl
  · rename_i heq
    rw [hcut] at heq
    cases heq

theorem unquoted_open {c : Char} (hc : c = '\'' ∨ c = '"') {s : Text}
    (hcut : Text.cut? c s = none) : unquoted (c :: s) = [] := by
  rw [unquoted, if_pos hc]
  split
  · rename_i heq
    rw [hcut] at heq
    cases heq
  · rfl

theorem depth_opening (s : Text) : depth ('(' :: s) = depth s + 1 := by
  rw [depth, unquoted_other (by decide), List.count_cons_self, List.count_cons_of_ne (by decide),
    depth]
  omega

/-! ## The state of the scan -/

/-- Within quotes, the scan goes on behind the next quote of the same sort. -/
theorem inside_quoted (d : Nat) (q : Char) (s : Text) :
    inside d (some q) s =
      match Text.cut? q s with
      | some (_, rest) => inside d none rest
      | none => some (d, some q) := by
  induction s with
  | nil => rfl
  | cons c s ih =>
    rw [inside, nextQuote, Text.cut?]
    by_cases hc : c = q
    · rw [if_pos hc, if_pos hc]
    · rw [if_neg hc, if_neg hc, ih]
      cases Text.cut? q s <;> rfl

/-- A quote opens outside quotes. -/
theorem inside_quote {c : Char} (hc : c = '\'' ∨ c = '"') (d : Nat) (s : Text) :
    inside d none (c :: s) = inside d (some c) s := by
  have hparen : c ≠ '(' ∧ c ≠ ')' := by rcases hc with rfl | rfl <;> decide
  rw [inside_other hparen.1 hparen.2, nextQuote, if_pos hc]

/-- Outside quotes, a character that opens none moves the depth as far as it is a parenthesis. -/
theorem exists_inside_of_cons {c : Char} (hc : ¬ (c = '\'' ∨ c = '"')) {d : Nat} {s : Text}
    {state : Nat × Option Char} (h : inside d none (c :: s) = some state) :
    ∃ d₁ : Nat, inside d₁ none s = some state ∧ d₁ + [c].count ')' = d + [c].count '(' := by
  by_cases h₁ : c = '('
  · subst h₁
    rw [inside_opening] at h
    exact ⟨d + 1, h, rfl⟩
  · by_cases h₂ : c = ')'
    · subst h₂
      cases d with
      | zero => simp at h
      | succ d =>
        rw [inside_closing_succ] at h
        exact ⟨d, h, rfl⟩
    · rw [inside_neutral ⟨h₁, h₂, fun hq => hc (Or.inl hq), fun hq => hc (Or.inr hq)⟩] at h
      refine ⟨d, h, ?_⟩
      rw [List.count_cons_of_ne h₁, List.count_cons_of_ne h₂]
      rfl

/-- **The depth of the scan is the depth of what it has passed.** -/
theorem depth_of_inside {d d' : Nat} {quote : Option Char} {s : Text}
    (h : inside d none s = some (d', quote)) : (d' : Int) = d + depth s := by
  unfold depth
  fun_induction unquoted s generalizing d with
  | case1 =>
    cases h
    simp
  | case2 c s hc a rest hcut ih =>
    rw [inside_quote hc, inside_quoted, hcut] at h
    exact ih h
  | case3 c s hc hcut =>
    -- the quote is never closed, and all behind it is hidden
    rw [inside_quote hc, inside_quoted, hcut] at h
    cases h
    simp
  | case4 c s hc ih =>
    obtain ⟨d₁, hrest, hstep⟩ := exists_inside_of_cons hc h
    have hdepth := ih hrest
    rw [← List.singleton_append, List.count_append, List.count_append]
    omega

/-- **Where the scan is outside quotes, the unquoted characters are cut in two.** -/
theorem unquoted_append_of_inside {d d' : Nat} {s : Text} (h : inside d none s = some (d', none))
    (r : Text) : unquoted (s ++ r) = unquoted s ++ unquoted r := by
  fun_induction unquoted s generalizing d with
  | case1 => rfl
  | case2 c s hc a rest hcut ih =>
    rw [inside_quote hc, inside_quoted, hcut] at h
    obtain ⟨ha, rfl⟩ := Text.cut?_eq_some_iff.1 hcut
    have hcut' : Text.cut? c ((a ++ c :: rest) ++ r) = some (a, rest ++ r) :=
      Text.cut?_eq_some_iff.2 ⟨ha, by simp⟩
    rw [List.cons_append, unquoted_closed hc hcut']
    exact ih h
  | case3 c s hc hcut =>
    rw [inside_quote hc, inside_quoted, hcut] at h
    cases h
  | case4 c s hc ih =>
    obtain ⟨d₁, hrest, -⟩ := exists_inside_of_cons hc h
    rw [List.cons_append, unquoted_other hc, ih hrest, List.cons_append]

/-! ## Groups -/

/-- As long as the scan is inside, the parenthesis in front is open. -/
theorem depth_pos_of_inside {s : Text} {state : Nat × Option Char}
    (h : inside 0 none s = some state) {v : Text} (hv : v <+: s) : 0 < depth ('(' :: v) := by
  obtain ⟨w, rfl⟩ := hv
  rw [inside_append] at h
  obtain ⟨⟨d, quote⟩, hstate, -⟩ := Option.bind_eq_some_iff.1 h
  have hdepth := depth_of_inside hstate
  rw [depth_opening]
  omega

/-- **A balanced text in parentheses is enclosed by them.** -/
theorem Balanced.enclosed {u : Text} (h : Balanced u) : Enclosed ('(' :: (u ++ [')'])) := by
  have hdepth : depth u = 0 := by
    have hu := depth_of_inside h
    omega
  have hclosing : unquoted (u ++ [')']) = unquoted u ++ [')'] := by
    rw [unquoted_append_of_inside h, unquoted_other (by decide)]
    simp [unquoted]
  refine ⟨⟨_, rfl⟩, ⟨'(' :: u, rfl, ?_⟩, ?_, ?_⟩
  · rw [unquoted_other (by decide), unquoted_other (by decide), hclosing, List.cons_append]
  · rw [depth_opening, depth, hclosing, List.count_append, List.count_append]
    rw [depth] at hdepth
    simp
    omega
  · intro v w heq hv hw
    -- a shorter beginning is the parenthesis and a beginning of `u`, which the scan passes
    cases v with
    | nil => exact absurd rfl hv
    | cons c v =>
      rw [List.cons_append, List.cons.injEq] at heq
      obtain ⟨rfl, heq⟩ := heq
      have hprefix : v <+: u := by
        rcases List.append_eq_append_iff.1 heq with ⟨x, rfl, hx⟩ | ⟨x, hx, -⟩
        · cases x with
          | nil => exact ⟨[], by simp⟩
          | cons y x =>
            rw [List.cons_append, List.cons.injEq] at hx
            exact absurd (List.append_eq_nil_iff.1 hx.2.symm).2 hw
        · exact ⟨x, hx.symm⟩
      exact depth_pos_of_inside h hprefix

end QueryFilter.Token
