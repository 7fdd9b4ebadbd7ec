/-
  QUOTATIONS — which characters of a text are quoted, and where a group ends, offset by offset.

  1. **Specification** — behind an offset `pos`, a quotation begins at each quote that no earlier
     quotation reaches (`QuotationAt`), and goes on to the next quote of the same sort, or to the
     end of the text.  What belongs to one is `Quoted`.
  2. **Open quotations** — a character further, the same quotation is open or has ended, or one
     begins (`openAt_succ_iff`).  By induction the quote that the scan carries from character to
     character is the one that is open (`openQuote_slice`), so that `Quoted` can be computed.
  3. **Counting** — the parentheses outside quotations are those of the unquoted text
     (`unquotedCount_eq`), and so their surplus is its depth.
  4. **Groups** — a group closes where the two counts agree first (`ClosesAt`).

  All together: `group?_isLeast_closesAt`.
-/
import Mathlib.Order.Bounds.Defs
import Mathlib.Order.Interval.Finset.Nat
import QueryFilter.Proofs.Token.Matching

namespace QueryFilter.Token

/-! ## The specification of quotations -/

/-- A quote, single or double, stands at an offset. -/
def QuoteAt (text : Text) (i : Nat) : Prop := text[i]? = some '\'' ∨ text[i]? = some '"'

/-- What begins with the character at `a` and ends with the next one of its sort goes on up to
    `i`. -/
def ReachesTo (text : Text) (a i : Nat) : Prop := a ≤ i ∧ ∀ k, a < k → k < i → text[k]? ≠ text[a]?

/-- A quotation begins at offset `a`, somewhere behind `pos`: at a quote that belongs to no earlier
    quotation. -/
def QuotationAt (text : Text) (pos a : Nat) : Prop :=
  pos < a ∧ QuoteAt text a ∧ ∀ b, b < a → QuotationAt text pos b → ¬ ReachesTo text b a
termination_by a

/-- The character at an offset belongs to a quotation, one of its two quotes included. -/
def Quoted (text : Text) (pos i : Nat) : Prop := ∃ a, QuotationAt text pos a ∧ ReachesTo text a i

variable {text : Text} {pos i : Nat}

theorem QuoteAt.exists_eq (h : QuoteAt text i) : ∃ q, text[i]? = some q :=
  h.elim (fun h => ⟨_, h⟩) fun h => ⟨_, h⟩

/-- A quotation goes on up to the offset behind its beginning, whatever stands there. -/
theorem reachesTo_near {a : Nat} (h : a ≤ i) (hnear : i ≤ a + 1) : ReachesTo text a i :=
  ⟨h, fun k hk hki => by omega⟩

theorem reachesTo_succ_iff {a : Nat} (ha : a < i) :
    ReachesTo text a (i + 1) ↔ ReachesTo text a i ∧ text[i]? ≠ text[a]? := by
  constructor
  · rintro ⟨-, hbetween⟩
    exact ⟨⟨Nat.le_of_lt ha, fun k hk hki => hbetween k hk (by omega)⟩, hbetween i ha (by omega)⟩
  · rintro ⟨⟨-, hbetween⟩, hlast⟩
    refine ⟨by omega, fun k hk hki => ?_⟩
    rcases Nat.lt_succ_iff_lt_or_eq.1 hki with hlt | rfl
    · exact hbetween k hk hlt
    · exact hlast

/-! ## Open quotations -/

/-- In front of an offset a quotation is open that began with `q`. -/
def OpenAt (text : Text) (pos i : Nat) (q : Char) : Prop :=
  ∃ a, a < i ∧ QuotationAt text pos a ∧ text[a]? = some q ∧ ReachesTo text a i

/-- A quotation begins at each quote where none is open. -/
theorem quotationAt_iff :
    QuotationAt text pos i ↔ pos < i ∧ QuoteAt text i ∧ ∀ q, ¬ OpenAt text pos i q := by
  rw [QuotationAt]
  refine and_congr_right fun _ => and_congr_right fun _ => ⟨?_, ?_⟩
  · rintro h q ⟨a, ha, hbegin, -, hreach⟩
    exact h a ha hbegin hreach
  · intro h a ha hbegin hreach
    have hquote := hbegin
    rw [QuotationAt] at hquote
    obtain ⟨q, hq⟩ := hquote.2.1.exists_eq
    exact h q ⟨a, ha, hbegin, hq, hreach⟩

theorem not_openAt_start (text : Text) (pos : Nat) (q : Char) : ¬ OpenAt text pos (pos + 1) q := by
  rintro ⟨a, ha, hbegin, -⟩
  have hpos := (quotationAt_iff.1 hbegin).1
  omega

/-- **One character on**, the same quotation is open unless it ended there, or one has begun
    there. -/
theorem openAt_succ_iff {q : Char} : OpenAt text pos (i + 1) q ↔
    OpenAt text pos i q ∧ text[i]? ≠ some q ∨ QuotationAt text pos i ∧ text[i]? = some q := by
  constructor
  · rintro ⟨a, ha, hbegin, hq, hreach⟩
    rcases Nat.lt_succ_iff_lt_or_eq.1 ha with hlt | rfl
    · obtain ⟨hreach, hother⟩ := (reachesTo_succ_iff hlt).1 hreach
      exact Or.inl ⟨⟨a, hlt, hbegin, hq, hreach⟩, hq ▸ hother⟩
    · exact Or.inr ⟨hbegin, hq⟩
  · rintro (⟨⟨a, ha, hbegin, hq, hreach⟩, hother⟩ | ⟨hbegin, hq⟩)
    · exact ⟨a, by omega, hbegin, hq, (reachesTo_succ_iff ha).2 ⟨hreach, hq ▸ hother⟩⟩
    · exact ⟨i, by omega, hbegin, hq, reachesTo_near (by omega) (by omega)⟩

/-- A quoted character has a quotation open in front of it, or begins one. -/
theorem quoted_iff_openAt :
    Quoted text pos i ↔ (∃ q, OpenAt text pos i q) ∨ QuotationAt text pos i := by
  constructor
  · rintro ⟨a, hbegin, hreach⟩
    rcases Nat.lt_or_eq_of_le hreach.1 with hlt | rfl
    · obtain ⟨q, hq⟩ := (quotationAt_iff.1 hbegin).2.1.exists_eq
      exact Or.inl ⟨q, a, hlt, hbegin, hq, hreach⟩
    · exact Or.inr hbegin
  · rintro (⟨q, a, -, hbegin, -, hreach⟩ | hbegin)
    · exact ⟨a, hbegin, hreach⟩
    · exact ⟨i, hbegin, reachesTo_near (by omega) (by omega)⟩

/-! ## The quote that the scan carries -/

/-- The quote that is open behind a text that begins outside quotes. -/
def openQuote (s : Text) : Option Char := s.foldl nextQuote none

theorem openQuote_concat (s : Text) (c : Char) :
    openQuote (s ++ [c]) = nextQuote (openQuote s) c := by
  rw [openQuote, List.foldl_append]
  rfl

theorem openQuote_other {c : Char} (hc : ¬ (c = '\'' ∨ c = '"')) (s : Text) :
    openQuote (c :: s) = openQuote s := by
  rw [openQuote, List.foldl_cons, nextQuote, if_neg hc, openQuote]

/-- A quote stays open as long as it does not come again. -/
theorem foldl_nextQuote_of_not_mem {q : Char} {s : Text} (h : q ∉ s) :
    s.foldl nextQuote (some q) = some q := by
  induction s with
  | nil => rfl
  | cons c s ih =>
    have hc : c ≠ q := fun heq => h (heq ▸ List.mem_cons_self ..)
    rw [List.foldl_cons, nextQuote, if_neg hc, ih fun hmem => h (List.mem_cons_of_mem _ hmem)]

theorem openQuote_closed {c : Char} (hc : c = '\'' ∨ c = '"') {s a b : Text}
    (hcut : Text.cut? c s = some (a, b)) : openQuote (c :: s) = openQuote b := by
  obtain ⟨ha, rfl⟩ := Text.cut?_eq_some_iff.1 hcut
  rw [openQuote, List.foldl_cons, nextQuote, if_pos hc, List.foldl_append,
    foldl_nextQuote_of_not_mem ha, List.foldl_cons, nextQuote, if_pos rfl, openQuote]

theorem openQuote_open {c : Char} (hc : c = '\'' ∨ c = '"') {s : Text}
    (hcut : Text.cut? c s = none) : openQuote (c :: s) = some c := by
  rw [openQuote, List.foldl_cons, nextQuote, if_pos hc,
    foldl_nextQuote_of_not_mem (Text.cut?_eq_none_iff.1 hcut)]

/-- The scan for the end of a group carries that quote, whatever its depth. -/
theorem foldl_nextQuote_of_inside {depth depth' : Nat} {quote quote' : Option Char} {s : Text}
    (h : inside depth quote s = some (depth', quote')) : s.foldl nextQuote quote = quote' := by
  fun_induction inside depth quote s with
  | case1 depth quote =>
    cases h
    rfl
  | case2 depth q c s ih => exact ih h
  | case3 depth s ih => exact ih h
  | case4 s => cases h
  | case5 s depth _ ih => exact ih h
  | case6 depth c s h₁ h₂ ih => exact ih h

/-- A slice up to the next offset has the character in between at its end. -/
theorem slice_succ {j : Nat} {c : Char} (hj : j ≤ i) (hc : text[i]? = some c) :
    (text.take (i + 1)).drop j = (text.take i).drop j ++ [c] := by
  have hlen : i < text.length := (List.getElem?_eq_some_iff.1 hc).1
  rw [List.take_add_one, hc, Option.toList_some, List.drop_append_of_le_length]
  rw [List.length_take]
  omega

/-- A slice that is not empty begins with the character at its offset. -/
theorem slice_cons {e : Nat} {c : Char} (hpos : text[pos]? = some c) (he : pos < e) :
    (text.take e).drop pos = c :: (text.take e).drop (pos + 1) := by
  apply Text.drop_eq_cons
  rw [List.getElem?_take_of_lt he, hpos]

/-- **The quote that is carried is the one of the open quotation.** -/
theorem openQuote_slice (text : Text) (pos : Nat) {i : Nat} (hi : pos < i) (q : Char) :
    openQuote ((text.take i).drop (pos + 1)) = some q ↔ OpenAt text pos i q := by
  induction i, hi using Nat.le_induction generalizing q with
  | base =>
    have hnil : (text.take (pos + 1)).drop (pos + 1) = [] :=
      List.drop_eq_nil_of_le (List.length_take_le ..)
    rw [hnil]
    exact iff_of_false (by simp [openQuote]) (not_openAt_start text pos q)
  | succ i hi ih =>
    rw [openAt_succ_iff, quotationAt_iff]
    simp only [← ih]
    cases hc : text[i]? with
    | none =>
      have hsame : text.take (i + 1) = text.take i := by
        rw [List.take_add_one, hc, Option.toList_none, List.append_nil]
      simp [hsame]
    | some c =>
      have hpos : pos < i := hi
      rw [slice_succ hi hc, openQuote_concat]
      cases openQuote ((text.take i).drop (pos + 1)) with
      | none =>
        by_cases hquote : c = '\'' ∨ c = '"'
        · simp [nextQuote, QuoteAt, hc, hquote, hpos]
        · simp [nextQuote, QuoteAt, hc, hquote]
      | some q' =>
        -- inside a quotation only its own quote changes anything
        by_cases hend : c = q'
        · subst hend
          simp [nextQuote]
        · rw [show nextQuote (some q') c = some q' from if_neg hend]
          constructor
          · rintro ⟨rfl⟩
            exact Or.inl ⟨rfl, fun heq => hend (Option.some.inj heq)⟩
          · rintro (⟨hq, -⟩ | ⟨⟨-, -, hnone⟩, -⟩)
            · exact hq
            · exact absurd rfl (hnone q')

/-- **Quoted is what the scan passes with a quote open**, and each quote. -/
theorem quoted_iff : Quoted text pos i ↔
    pos < i ∧ ((openQuote ((text.take i).drop (pos + 1))).isSome ∨ QuoteAt text i) := by
  rw [quoted_iff_openAt]
  by_cases hi : pos < i
  · rw [quotationAt_iff]
    simp only [← openQuote_slice text pos hi]
    cases openQuote ((text.take i).drop (pos + 1)) <;> simp [hi]
  · refine iff_of_false ?_ fun h => hi h.1
    rintro (⟨q, a, ha, hbegin, -⟩ | hbegin)
    · have hpos := (quotationAt_iff.1 hbegin).1
      omega
    · exact hi (quotationAt_iff.1 hbegin).1

instance (text : Text) (i : Nat) : Decidable (QuoteAt text i) :=
  inferInstanceAs (Decidable (_ ∨ _))

instance (text : Text) (pos i : Nat) : Decidable (Quoted text pos i) :=
  decidable_of_iff _ quoted_iff.symm

/-- A quote inside a quotation of the other sort begins none. -/
example : Quoted "(\"'\")'".toList 0 2 ∧ ¬ Quoted "(\"'\")'".toList 0 4 := by decide

/-! ## Counting -/

/-- How many unquoted characters `c` stand from offset `pos` up to `e`. -/
def unquotedCount (text : Text) (pos e : Nat) (c : Char) : Nat :=
  ((Finset.Ico pos e).filter fun i => text[i]? = some c ∧ ¬ Quoted text pos i).card

theorem unquotedCount_succ {e : Nat} (he : pos ≤ e) (c : Char) :
    unquotedCount text pos (e + 1) c =
      unquotedCount text pos e c + if text[e]? = some c ∧ ¬ Quoted text pos e then 1 else 0 := by
  rw [unquotedCount, Nat.Ico_succ_right_eq_insert_Ico he, Finset.filter_insert]
  split
  · rw [Finset.card_insert_of_notMem (by simp), unquotedCount]
  · rfl

/-- A character at the end is unquoted if no quote is open before it and it is none. -/
theorem unquoted_concat (s : Text) (c : Char) :
    unquoted (s ++ [c]) =
      unquoted s ++ if openQuote s = none ∧ ¬ (c = '\'' ∨ c = '"') then [c] else [] := by
  fun_induction unquoted s with
  | case1 =>
    by_cases hc : c = '\'' ∨ c = '"'
    · rw [if_neg fun h => h.2 hc]
      exact unquoted_open hc rfl
    · rw [if_pos ⟨rfl, hc⟩, List.nil_append, unquoted_other hc, unquoted]
  | case2 d s hd a rest hcut ih =>
    obtain ⟨ha, rfl⟩ := Text.cut?_eq_some_iff.1 hcut
    have hcut' : Text.cut? d ((a ++ d :: rest) ++ [c]) = some (a, rest ++ [c]) :=
      Text.cut?_eq_some_iff.2 ⟨ha, by simp⟩
    rw [List.cons_append, unquoted_closed hd hcut', openQuote_closed hd hcut, ih]
  | case3 d s hd hcut =>
    -- the new character is hidden as well, or it is the quote that ends the quotation
    rw [openQuote_open hd hcut, if_neg (by simp), List.append_nil, List.cons_append]
    have hs := Text.cut?_eq_none_iff.1 hcut
    by_cases hc : c = d
    · subst hc
      have hcut' : Text.cut? c (s ++ [c]) = some (s, []) := Text.cut?_eq_some_iff.2 ⟨hs, rfl⟩
      rw [unquoted_closed hd hcut', unquoted]
    · apply unquoted_open hd
      rw [Text.cut?_eq_none_iff, List.mem_append, List.mem_singleton, not_or]
      exact ⟨hs, Ne.symm hc⟩
  | case4 d s hd ih =>
    rw [List.cons_append, unquoted_other hd, ih, openQuote_other hd, List.cons_append]

/-- **The unquoted characters of a text are counted in its unquoted text.** -/
theorem unquotedCount_eq (hpos : text[pos]? = some '(') {e : Nat} (he : pos < e) (c : Char) :
    unquotedCount text pos e c = (unquoted ((text.take e).drop pos)).count c := by
  induction e, he using Nat.le_induction with
  | base =>
    have hquoted : ¬ Quoted text pos pos := fun h => Nat.lt_irrefl pos (quoted_iff.1 h).1
    rw [unquotedCount_succ (Nat.le_refl pos), slice_succ (Nat.le_refl pos) hpos]
    simp [unquotedCount, unquoted, hpos, hquoted, List.count_singleton]
  | succ e he ih =>
    rw [unquotedCount_succ (Nat.le_of_lt he), ih]
    cases hd : text[e]? with
    | none =>
      rw [List.take_add_one, hd, Option.toList_none, List.append_nil, if_neg (by simp),
        Nat.add_zero]
    | some d =>
      have hfree : (openQuote ((text.take e).drop pos) = none ∧ ¬ (d = '\'' ∨ d = '"')) ↔
          ¬ Quoted text pos e := by
        have hbehind : pos < e := he
        rw [slice_cons hpos he, openQuote_other (by decide), quoted_iff]
        simp [QuoteAt, hd, hbehind]
      rw [slice_succ (Nat.le_of_lt he) hd, unquoted_concat, List.count_append,
        if_congr hfree rfl rfl]
      by_cases hquoted : Quoted text pos e
      · simp [hquoted]
      · simp [hquoted, List.count_singleton]

/-- The surplus of opening parentheses is the depth of the slice. -/
theorem depth_slice (hpos : text[pos]? = some '(') {e : Nat} (he : pos < e) :
    depth ((text.take e).drop pos) =
      unquotedCount text pos e '(' - unquotedCount text pos e ')' := by
  rw [depth, unquotedCount_eq hpos he, unquotedCount_eq hpos he]

/-! ## Groups -/

/-- The group that opens at `pos` is closed at `e`: an unquoted closing parenthesis stands in front
    of `e`, and the unquoted parentheses of either sort are equally many. -/
structure ClosesAt (text : Text) (pos e : Nat) : Prop where
  behind : pos < e
  closing : text[e - 1]? = some ')'
  unquoted : ¬ Quoted text pos (e - 1)
  even : unquotedCount text pos e '(' = unquotedCount text pos e ')'

/-- Nothing closes a group as long as the scan is inside. -/
theorem not_closesAt_of_inside (hpos : text[pos]? = some '(') {e : Nat} {s : Text}
    {state : Nat × Option Char} (h : inside 0 none s = some state)
    (hs : (text.take e).drop (pos + 1) <+: s) : ¬ ClosesAt text pos e := by
  intro hclose
  have hdepth := depth_pos_of_inside h hs
  rw [← slice_cons hpos hclose.behind, depth_slice hpos hclose.behind, hclose.even] at hdepth
  omega

/-- A balanced text behind the parenthesis and another parenthesis close the group. -/
theorem closesAt_of_balanced (hpos : text[pos]? = some '(') {u r : Text} (hu : Balanced u)
    (htext : text.drop (pos + 1) = u ++ ')' :: r) : ClosesAt text pos (pos + (u.length + 2)) := by
  have hslice : ∀ k, (text.take (pos + 1 + k)).drop (pos + 1) = (u ++ ')' :: r).take k := by
    intro k
    rw [List.drop_take, htext]
    congr 1
    omega
  have hwhole : (text.take (pos + (u.length + 2))).drop pos = '(' :: (u ++ [')']) := by
    rw [slice_cons hpos (by omega),
      show pos + (u.length + 2) = pos + 1 + (u.length + 1) from by omega, hslice,
      List.take_append]
    simp
  have hlast : text[pos + 1 + u.length]? = some ')' := by
    rw [← List.getElem?_drop, htext]
    simp
  have hend : pos + (u.length + 2) - 1 = pos + 1 + u.length := by omega
  refine ⟨by omega, hend ▸ hlast, ?_, ?_⟩
  · -- the scan comes to the last parenthesis outside quotes
    rw [hend, quoted_iff, hslice, List.take_left, openQuote, foldl_nextQuote_of_inside hu]
    simp [QuoteAt, hlast]
  · have hmatched := hu.enclosed.matched
    rw [← hwhole, depth_slice hpos (by omega)] at hmatched
    omega

/-- **A group ends where it is closed first**, and there is none exactly if it is closed nowhere. -/
theorem group?_isLeast_closesAt (text : Text) (pos : Nat) (hpos : text[pos]? = some '(') :
    (∀ t r, group? (text.drop pos) = some (t, r) →
      t ++ r = text.drop pos ∧ IsLeast {e | ClosesAt text pos e} (pos + t.length)) ∧
    (group? (text.drop pos) = none ↔ ∀ e, ¬ ClosesAt text pos e) := by
  have htext := Text.drop_eq_cons hpos
  have hsome : ∀ t r, group? (text.drop pos) = some (t, r) →
      t ++ r = text.drop pos ∧ IsLeast {e | ClosesAt text pos e} (pos + t.length) := by
    intro t r h
    obtain ⟨u, hu, rfl, hs⟩ := group?_eq_some_iff.1 h
    have hrest : text.drop (pos + 1) = u ++ ')' :: r := by
      rw [htext, List.cons_append, List.cons.injEq] at hs
      rw [hs.2, List.append_assoc, List.singleton_append]
    have hlength : ('(' :: (u ++ [')'])).length = u.length + 2 := by simp
    refine ⟨hs.symm, hlength ▸ closesAt_of_balanced hpos hu hrest, fun e he => ?_⟩
    rw [hlength]
    by_contra hlt
    -- before that offset the scan is inside, and what it has passed is a beginning of `u`
    refine not_closesAt_of_inside hpos hu ?_ he
    rw [List.drop_take, hrest, List.take_append_of_le_length (by omega)]
    exact List.take_prefix ..
  refine ⟨hsome, ?_, ?_⟩
  · intro h e
    rw [htext, group?, after_eq_none_iff, closeGroup_eq_none_iff] at h
    obtain ⟨state, hstate⟩ := h
    refine not_closesAt_of_inside hpos hstate ?_
    rw [List.drop_take]
    exact List.take_prefix ..
  · intro h
    cases hgroup : group? (text.drop pos) with
    | none => rfl
    | some p => exact absurd (hsome p.1 p.2 hgroup).2.1 (h _)

/-- A group with a quote of each sort that hides parentheses and the other quote. -/
def hidingSample : Text := "a (b ')\"' (\")'\") c) d".toList

/-- The group closes behind its nested group; a group with an open quote never closes. -/
theorem group?_isLeast_closesAt_hidingSample :
    (hidingSample[2]? = some '(' ∧ IsLeast {e | ClosesAt hidingSample 2 e} 19) ∧
      ∀ e, ¬ ClosesAt "('x)".toList 0 e := by
  have hgroup : group? (hidingSample.drop 2) =
      some ("(b ')\"' (\")'\") c)".toList, " d".toList) := by decide
  refine ⟨⟨rfl, ((group?_isLeast_closesAt hidingSample 2 rfl).1 _ _ hgroup).2⟩, ?_⟩
  exact (group?_isLeast_closesAt "('x)".toList 0 rfl).2.1 (by decide)

end QueryFilter.Token
