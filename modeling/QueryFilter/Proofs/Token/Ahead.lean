/-
  LOOKING AHEAD — what the scan sees of a text that it has not come to yet.

  Some tokens are decided far ahead: by the end of a group, by a closing parenthesis behind a
  lambda, and by a closing quote.

  1. **Parentheses** — the scan for the end of a group and that for a closing parenthesis see only
     the characters that are not blank, the `solid` ones (`closeGroup_solid`, `group?_solid`,
     `closing?_solid`).  So two texts that differ in blanks look the same to them.
  2. **Quotes** — the scan for a closing quote sees pairs of quotes too.  It fails on a text in
     pieces exactly if it fails on each of them, provided that no pair lies across (`QuoteApart`,
     `closeQuote_append_eq_none_iff`); and across the end of a token no pair lies
     (`QuoteApart.of_formed`).
-/
import QueryFilter.Proofs.Token.Form
import QueryFilter.Proofs.Token.Lambda

namespace QueryFilter.Token

variable {policy : QuotePolicy}

/-! ## Parentheses ahead -/

/-- The characters that are not blank. -/
def solid (s : Text) : Text := s.filter fun c => !Text.isBlank c

/-- What a scanner read, without its blanks. -/
def solids (scanned : Scanned) : Scanned := scanned.map fun (t, r) => (solid t, solid r)

theorem solid_append (s t : Text) : solid (s ++ t) = solid s ++ solid t := List.filter_append ..

theorem solid_of_blank {gap : Text} (h : ∀ c ∈ gap, Text.isBlank c = true) : solid gap = [] := by
  rw [solid, List.filter_eq_nil_iff]
  intro c hc
  simp [h c hc]

theorem solid_cons_blank {c : Char} (hc : Text.isBlank c = true) (s : Text) :
    solid (c :: s) = solid s :=
  List.filter_cons_of_neg (by simp [hc])

theorem solid_cons {c : Char} (hc : Text.isBlank c = false) (s : Text) :
    solid (c :: s) = c :: solid s :=
  List.filter_cons_of_pos (by simp [hc])

theorem solid_trimStart (s : Text) : solid (Text.trimStart s) = solid s := by
  obtain ⟨gap, hgap, hs⟩ := Lambda.exists_blanks_trimStart s
  conv => rhs; rw [hs, solid_append, solid_of_blank hgap, List.nil_append]

theorem solids_after_blank {c : Char} (hc : Text.isBlank c = true) (scanned : Scanned) :
    solids (after [c] scanned) = solids scanned := by
  cases scanned with
  | none => rfl
  | some p =>
    show some (solid (c :: p.1), solid p.2) = some (solid p.1, solid p.2)
    rw [solid_cons_blank hc]

theorem solids_after {c : Char} (hc : Text.isBlank c = false) (scanned : Scanned) :
    solids (after [c] scanned) = after [c] (solids scanned) := by
  cases scanned with
  | none => rfl
  | some p =>
    show some (solid (c :: p.1), solid p.2) = some (c :: solid p.1, solid p.2)
    rw [solid_cons hc]

/-- A blank means nothing to the scan for the end of a group. -/
theorem neutral_of_isBlank {c : Char} (hc : Text.isBlank c = true) : Neutral c := by
  refine ⟨?_, ?_, ?_, ?_⟩
  all_goals
    rintro rfl
    revert hc
    decide

/-- A quote that is no blank, if there is one. -/
def SolidQuote (quote : Option Char) : Prop := ∀ q, quote = some q → Text.isBlank q = false

theorem SolidQuote.next {quote : Option Char} (h : SolidQuote quote) {c : Char}
    (hc : Text.isBlank c = false) : SolidQuote (nextQuote quote c) := by
  intro q hq
  cases quote with
  | none =>
    rw [nextQuote] at hq
    split at hq
    · cases hq
      exact hc
    · cases hq
  | some p =>
    rw [nextQuote] at hq
    split at hq
    · cases hq
    · cases hq
      exact h q rfl

/-- The scan for the end of a group passes over a blank. -/
theorem closeGroup_blank (depth : Nat) {quote : Option Char} (hquote : SolidQuote quote) {c : Char}
    (hc : Text.isBlank c = true) (s : Text) :
    closeGroup depth quote (c :: s) = after [c] (closeGroup depth quote s) := by
  cases quote with
  | none =>
    obtain ⟨h₁, h₂, h₃, h₄⟩ := neutral_of_isBlank hc
    rw [closeGroup_other h₁ h₂, nextQuote, if_neg]
    rintro (h | h)
    · exact h₃ h
    · exact h₄ h
  | some q =>
    have hne : c ≠ q := by
      rintro rfl
      rw [hquote c rfl] at hc
      cases hc
    rw [closeGroup, nextQuote, if_neg hne]

/-- **The scan for the end of a group sees no blanks.** -/
theorem closeGroup_solid (depth : Nat) {quote : Option Char} (hquote : SolidQuote quote)
    (s : Text) : closeGroup depth quote (solid s) = solids (closeGroup depth quote s) := by
  induction s generalizing depth quote with
  | nil => rfl
  | cons c s ih =>
    cases hc : Text.isBlank c with
    | true =>
      rw [solid_cons_blank hc, closeGroup_blank depth hquote hc, solids_after_blank hc,
        ih depth hquote]
    | false =>
      rw [solid_cons hc]
      cases quote with
      | some q => rw [closeGroup, closeGroup, solids_after hc, ih depth (hquote.next hc)]
      | none =>
        by_cases h₁ : c = '('
        · subst h₁
          rw [closeGroup_opening, closeGroup_opening, solids_after hc, ih _ hquote]
        · by_cases h₂ : c = ')'
          · subst h₂
            cases depth with
            | zero => rfl
            | succ depth =>
              rw [closeGroup_closing_succ, closeGroup_closing_succ, solids_after hc, ih _ hquote]
          · rw [closeGroup_other h₁ h₂, closeGroup_other h₁ h₂, solids_after hc,
              ih _ (hquote.next hc)]

/-- Nor does the scan for a group behind blanks. -/
theorem group?_solid (s : Text) : group? (solid s) = solids (group? (Text.trimStart s)) := by
  rw [← solid_trimStart s]
  cases hs : Text.trimStart s with
  | nil => rfl
  | cons c s' =>
    have hc := isBlank_of_trimStart hs
    rw [solid_cons hc]
    by_cases h : c = '('
    · subst h
      have hnone : SolidQuote none := by
        intro q hq
        cases hq
      rw [group?, group?, solids_after hc, closeGroup_solid 0 hnone]
    · have hother : ∀ s t, c :: s ≠ '(' :: t := by
        intro s t heq
        cases heq
        exact h rfl
      rw [group?_eq_none (hother _), group?_eq_none (hother _)]
      rfl

/-- Only a parenthesis behind blanks closes. -/
theorem closing?_eq_none {s : Text} (h : ∀ r, Text.trimStart s ≠ ')' :: r) : closing? s = none := by
  unfold closing?
  split
  · rename_i r heq
    exact absurd heq (h r)
  · rfl

/-- Nor does the scan for a closing parenthesis. -/
theorem closing?_solid (s : Text) : closing? (solid s) = solids (closing? s) := by
  obtain ⟨gap, hgap, hs⟩ := Lambda.exists_blanks_trimStart s
  cases htrim : Text.trimStart s with
  | nil =>
    rw [← solid_trimStart, htrim, closing?_eq_none (s := s) (by simp [htrim])]
    rfl
  | cons c s' =>
    have hc := isBlank_of_trimStart htrim
    rw [← solid_trimStart, htrim, solid_cons hc]
    by_cases h : c = ')'
    · subst h
      have hclosing : closing? s = some (gap ++ [')'], s') :=
        closing?_eq_some_iff.2 ⟨gap, hgap, rfl, by rw [List.append_assoc, hs, htrim]; rfl⟩
      have hread : solid (gap ++ [')']) = [')'] := by
        rw [solid_append, solid_of_blank hgap]
        rfl
      rw [hclosing, closing?_closing]
      show some ([')'], solid s') = some (solid (gap ++ [')']), solid s')
      rw [hread]
    · have hstart : Text.trimStart (c :: solid s') = c :: solid s' :=
        List.dropWhile_cons_of_neg (by simp [hc])
      rw [closing?_eq_none (s := s) (by simp [htrim, h]),
        closing?_eq_none (s := c :: solid s') (by simp [hstart, h])]
      rfl

/-- A group behind blanks is found in both of two texts that differ in blanks. -/
theorem exists_group?_of_solid {s s' t q : Text} (h : solid s' = solid s)
    (hgroup : group? (Text.trimStart s) = some (t, q)) :
    ∃ t' q', group? (Text.trimStart s') = some (t', q') ∧ solid q' = solid q := by
  have hsolids := group?_solid s'
  rw [h, group?_solid s, hgroup] at hsolids
  obtain ⟨⟨t', q'⟩, hread, heq⟩ := Option.map_eq_some_iff.1 hsolids.symm
  exact ⟨t', q', hread, congrArg Prod.snd heq⟩

theorem closing?_ne_none_of_solid {s s' : Text} (h : solid s' = solid s)
    (hclosing : closing? s ≠ none) : closing? s' ≠ none := by
  intro hnone
  have hsolids := closing?_solid s'
  rw [hnone, h, closing?_solid s] at hsolids
  exact hclosing (Option.map_eq_none_iff.1 hsolids)

/-! ## Quotes ahead -/

/-- No pair of quotes lies across the place where `r` follows `t`, if pairs count. -/
def QuoteApart (policy : QuotePolicy) (t r : Text) : Prop :=
  policy = .doubled → t.getLast? = some '\'' → ∀ r', r ≠ '\'' :: r'

theorem QuoteApart.of_append {s t r : Text} (h : QuoteApart policy (s ++ t) r) :
    QuoteApart policy t r := by
  intro hpolicy hlast
  exact h hpolicy (by rw [List.getLast?_append, hlast]; rfl)

/-- A quote closes, unless it is the first one of a pair that counts. -/
theorem closeQuote_close {s : Text} (h : policy = .doubled → ∀ s', s ≠ '\'' :: s') :
    closeQuote policy ('\'' :: s) = some (['\''], s) := by
  rw [closeQuote.eq_def]
  simp only [if_true]
  split
  · exact absurd rfl (h rfl _)
  · rfl

/-- **A text in pieces has no closing quote exactly if none of its pieces has one.** -/
theorem closeQuote_append_eq_none_iff {t r : Text} (h : QuoteApart policy t r) :
    closeQuote policy (t ++ r) = none ↔
      closeQuote policy t = none ∧ closeQuote policy r = none := by
  fun_induction closeQuote policy t with
  | case1 => simp
  | case2 s hpolicy ih =>
    subst hpolicy
    rw [List.cons_append, List.cons_append, closeQuote_pair, after_eq_none_iff, after_eq_none_iff,
      ih (h.of_append (s := ['\'', '\'']))]
  | case3 s hlast =>
    -- the quote at the end of the first piece is none of a pair
    have hclose : closeQuote policy ('\'' :: (s ++ r)) = some (['\''], s ++ r) := by
      apply closeQuote_close
      intro hpolicy s' hs
      cases s with
      | nil => exact h hpolicy rfl s' hs
      | cons c s =>
        rw [List.cons_append, List.cons.injEq] at hs
        exact hlast s hpolicy (by rw [hs.1])
    rw [List.cons_append, hclose]
    simp
  | case4 c s hc ih =>
    rw [List.cons_append, closeQuote_other hc, after_eq_none_iff, after_eq_none_iff,
      ih (h.of_append (s := [c]))]

/-- What was read up to a closing quote is read before any other text, unless a pair of quotes comes
    about. -/
theorem closeQuote_any_rest {s t r r' : Text} (h : closeQuote policy s = some (t, r))
    (hr : policy = .doubled → ∀ u, r' ≠ '\'' :: u) :
    closeQuote policy (t ++ r') = some (t, r') := by
  fun_induction closeQuote policy s generalizing t with
  | case1 => cases h
  | case2 s hpolicy ih =>
    subst hpolicy
    obtain ⟨u, hu, rfl⟩ := after_eq_some_iff.1 h
    rw [List.append_assoc, List.cons_append, List.cons_append, List.nil_append, closeQuote_pair,
      ih hu]
    rfl
  | case3 s hlast =>
    cases h
    exact closeQuote_close hr
  | case4 c s hc ih =>
    obtain ⟨u, hu, rfl⟩ := after_eq_some_iff.1 h
    rw [List.append_assoc, List.singleton_append, closeQuote_other hc, ih hu]
    rfl

theorem closeQuote_of_not_mem {s : Text} (h : '\'' ∉ s) : closeQuote policy s = none := by
  induction s with
  | nil => rfl
  | cons c s ih =>
    obtain ⟨hc, hs⟩ := not_or.1 (List.mem_cons.not.1 h)
    rw [closeQuote_other (fun heq => hc heq.symm), ih hs]
    rfl

/-- Blanks at the front close no quote. -/
theorem closeQuote_blank_append (policy : QuotePolicy) {gap : Text}
    (h : ∀ c ∈ gap, Text.isBlank c = true) (r : Text) :
    closeQuote policy (gap ++ r) = none ↔ closeQuote policy r = none := by
  have hquote : '\'' ∉ gap := fun hmem => (neutral_of_isBlank (h _ hmem)).2.2.1 rfl
  have hapart : QuoteApart policy gap r := fun _ hlast => absurd (List.mem_of_getLast? hlast) hquote
  rw [closeQuote_append_eq_none_iff hapart, closeQuote_of_not_mem hquote]
  simp

/-- No pair of quotes lies across the end of a token. -/
theorem QuoteApart.of_formed {kind : Kind} {t r : Text} (h : Formed policy kind t r) :
    QuoteApart policy t r := by
  rintro hpolicy hlast r' rfl
  have hends : ¬ Ends ('\'' :: r') := fun hends => absurd (hends _ _ rfl) (by decide)
  have hparenthesis : ∀ {u v : Text}, t = u ++ (v ++ [')']) → False := by
    rintro u v rfl
    simp at hlast
  cases kind with
  | and | or | not | isIn | comparison => exact hends h.2
  | bare => exact hends h.2.2.2
  | opening | closing | comma =>
    rw [show t = _ from h] at hlast
    revert hlast
    decide
  | string =>
    subst hpolicy
    exact h.2 r' rfl
  | call =>
    obtain ⟨op, blanks, group, -, henclosed, rfl⟩ := h
    obtain ⟨v, rfl, -⟩ := henclosed.closing
    exact hparenthesis (by rw [← List.append_assoc])
  | lambda =>
    rcases h with ⟨word, group, -, -, -, henclosed, rfl⟩ | ⟨blanks, u, blanks', -, -, -, rfl⟩
    · obtain ⟨v, rfl, -⟩ := henclosed.closing
      exact hparenthesis rfl
    · exact hparenthesis (u := '(' :: (blanks ++ u)) (v := blanks') (by simp)

end QueryFilter.Token
